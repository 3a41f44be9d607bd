import V2x.MsgRoute.EpollLoop

namespace V2x
namespace MsgRoute

open Foundations ThreadPool

/-!
# Connections that nobody watches

`MsgRouteServerAccept` returns without closing the new descriptor when
`EPOLL_CTL_ADD` fails.  Nothing is ever received from that connection, so
nothing ever closes it.  This is the only way in which the thread loses a
descriptor, and it closes none that it does not have.
-/

/-- An open descriptor that epoll does not watch and that is not the one of epoll. -/
def LoopState.Unwatched (state : LoopState) (fd : Int32) : Prop :=
  (state.files.file fd).isSome ∧ fd ≠ state.epollfd ∧ state.files.watches state.epollfd fd = false

/-- A connection has been accepted that will never be heard. -/
def LoopState.Leaks (state : LoopState) : Prop :=
  Exists fun fd => state.Unwatched fd

/-- The step accepts a connection that epoll refuses to watch. -/
def failsRegistration (state : LoopState) (label : LoopLabel) : Bool :=
  match state.pc, label with
  | .handleEvent (event :: _), .event outcome =>
      decide (event.fd = state.serverfd ∧ event.epollIn = true ∧ outcome.accept ≠ -1 ∧
        outcome.epollCtl ≠ 0)
  | _, _ => false

section Leaks

variable {state next : LoopState} {label : LoopLabel} {image : ServerState}

/-- What a step does to the descriptors.  A descriptor that it closes was watched. -/
inductive FilesMove (state next : LoopState) (label : LoopLabel) : Prop where
  | same (registers : failsRegistration state label = false) (files : next.files = state.files)
  | accepts (clientFd : Int32) (unused : state.files.file clientFd = none)
      (registers : failsRegistration state label = false)
      (files : next.files = (state.files.create clientFd).watch state.epollfd clientFd)
  | drops (clientFd : Int32) (unused : state.files.file clientFd = none)
      (fails : failsRegistration state label = true)
      (files : next.files = state.files.create clientFd)
  | closes (clientFd : Int32) (watched : state.files.watches state.epollfd clientFd = true)
      (isOpen : (state.files.file clientFd).isSome) (other : clientFd ≠ state.epollfd)
      (registers : failsRegistration state label = false)
      (files : next.files = state.files.close clientFd)

theorem filesMove_of_step (refines : LoopRefines state image)
    (taken : epollLoop.step state label = some next) :
    FilesMove state next label ∧ next.epollfd = state.epollfd := by
  cases loopStep_cases taken with
  | turns quiet turn =>
      refine ⟨.same ?_ turn.files, turn.epollfd⟩
      unfold failsRegistration
      unfold handledEvent at quiet
      split
      next event rest outcome at_ =>
        simp only [at_] at quiet
        split_ifs at quiet
      next => rfl
  | @handles event rest outcome _ at_ done =>
      rcases refines.next_event at_ with ⟨_, _, watched, isFile⟩
      have isOpen : (state.files.file event.fd).isSome := Option.isSome_iff_exists.mpr ⟨_, isFile⟩
      unfold msgRouteServerHandleEvent at done
      split at done
      next isServer =>
        rcases msgRouteServerAccept_cases done with ⟨failed, rfl⟩ | ⟨succeeded, valid, unused, rfl⟩
        · refine ⟨.same ?_ rfl, rfl⟩
          simp only [failsRegistration, at_, failed, ne_eq, not_true_eq_false, false_and, and_false, decide_false]
        · by_cases added : outcome.epollCtl = 0
          · refine ⟨.accepts outcome.accept unused ?_ (if_pos added), rfl⟩
            simp only [failsRegistration, at_, added, ne_eq, not_true_eq_false, and_false, decide_false]
          · refine ⟨.drops outcome.accept unused ?_ (if_neg added), rfl⟩
            simp only [failsRegistration, at_]
            exact decide_eq_true ⟨isServer.1, isServer.2, succeeded, added⟩
      next notServer =>
        have registers : failsRegistration state (.event outcome) = false := by
          simp only [failsRegistration, at_]
          exact decide_eq_false (fun isServer => notServer ⟨isServer.1, isServer.2.1⟩)
        split at done
        next epollIn =>
          cases done
          refine ⟨?_, rfl⟩
          cases closed : (msgRouteServerHandleMsg state.clientInfo state.recvBuf event.fd
              outcome.recv).closed with
          | false => exact .same registers (by simp only [LoopState.handleMsg, closed]; rfl)
          | true =>
              refine .closes event.fd watched isOpen ?_ registers ?_
              · rcases ((refines.watched event.fd).mp watched).resolve_left
                  (fun same => notServer ⟨same, epollIn⟩) with ⟨conn, member, sameFd, _⟩
                exact sameFd ▸ (refines.apart conn member).2
              · simp only [LoopState.handleMsg, closed, if_true]
                exact Descriptors.close_unwatch isOpen
        next notReadable =>
          cases done
          exact ⟨.same registers rfl, rfl⟩

theorem LoopRefines.watched_isOpen (refines : LoopRefines state image) {fd : Int32}
    (watched : state.files.watches state.epollfd fd = true) : (state.files.file fd).isSome := by
  apply (refines.files.isOpen fd).mpr
  rcases (refines.watched fd).mp watched with rfl | ⟨conn, member, rfl, _⟩
  · exact List.mem_cons_self
  · exact List.mem_cons_of_mem _ (List.mem_cons_of_mem _ (List.mem_map_of_mem member))

theorem LoopRefines.epollfd_isOpen (refines : LoopRefines state image) :
    (state.files.file state.epollfd).isSome :=
  (refines.files.isOpen _).mpr (List.mem_cons_of_mem _ List.mem_cons_self)

/-- What is not watched stays as it is. -/
theorem LoopState.Unwatched.step {fd : Int32} (unwatched : state.Unwatched fd)
    (refines : LoopRefines state image) (taken : epollLoop.step state label = some next) :
    next.Unwatched fd ∧ next.files.file fd = state.files.file fd := by
  rcases unwatched with ⟨isOpen, notEpoll, silent⟩
  rcases filesMove_of_step refines taken with ⟨move, sameEpollfd⟩
  have differs : forall {clientFd : Int32}, state.files.file clientFd = none -> fd ≠ clientFd := by
    rintro clientFd unused rfl
    rw [unused] at isOpen
    cases isOpen
  unfold LoopState.Unwatched
  rw [sameEpollfd]
  cases move with
  | same registers files =>
      rw [files]
      exact ⟨⟨isOpen, notEpoll, silent⟩, rfl⟩
  | accepts clientFd unused registers files =>
      have different := differs unused
      rw [files, Descriptors.file_watch, Descriptors.file_create, if_neg different,
        Descriptors.watches_watch, Descriptors.watches_create, silent]
      simp only [different, and_false, decide_false, Bool.or_self, and_true]
      exact ⟨isOpen, notEpoll⟩
  | drops clientFd unused fails files =>
      rw [files, Descriptors.file_create, if_neg (differs unused), Descriptors.watches_create]
      exact ⟨⟨isOpen, notEpoll, silent⟩, rfl⟩
  | closes clientFd watched isOpenToo other registers files =>
      have different : fd ≠ clientFd := by
        rintro rfl
        rw [silent] at watched
        cases watched
      rw [files, Descriptors.file_close, if_neg different, Descriptors.watches_close isOpenToo, silent,
        Bool.and_false]
      exact ⟨⟨isOpen, notEpoll, rfl⟩, rfl⟩

/-- A descriptor is left unwatched exactly by a failed registration. -/
theorem leaks_step_iff (refines : LoopRefines state image) (fine : ¬ state.Leaks)
    (taken : epollLoop.step state label = some next) :
    next.Leaks <-> failsRegistration state label = true := by
  rcases filesMove_of_step refines taken with ⟨move, sameEpollfd⟩
  unfold LoopState.Leaks LoopState.Unwatched at *
  rw [sameEpollfd]
  cases move with
  | same registers files =>
      rw [files, registers]
      exact iff_of_false fine Bool.false_ne_true
  | accepts clientFd unused registers files =>
      rw [files, registers]
      refine iff_of_false ?_ Bool.false_ne_true
      rintro ⟨fd, isOpen, notEpoll, silent⟩
      rw [Descriptors.watches_watch, Descriptors.watches_create, Bool.or_eq_false_iff,
        decide_eq_false_iff_not] at silent
      have different : fd ≠ clientFd := fun same => silent.1 ⟨rfl, same⟩
      rw [Descriptors.file_watch, Descriptors.file_create, if_neg different] at isOpen
      exact fine ⟨fd, isOpen, notEpoll, silent.2⟩
  | drops clientFd unused fails files =>
      rw [files, fails]
      refine iff_of_true ⟨clientFd, ?_, ?_, ?_⟩ rfl
      · rw [Descriptors.file_create, if_pos rfl]
        rfl
      · rintro rfl
        have isOpen := refines.epollfd_isOpen
        rw [unused] at isOpen
        cases isOpen
      · rw [Descriptors.watches_create, ← Bool.not_eq_true]
        intro watched
        have isOpen := refines.watched_isOpen watched
        rw [unused] at isOpen
        cases isOpen
  | closes clientFd watched isOpenToo other registers files =>
      rw [files, registers]
      refine iff_of_false ?_ Bool.false_ne_true
      rintro ⟨fd, isOpen, notEpoll, silent⟩
      rw [Descriptors.file_close] at isOpen
      split at isOpen
      next => cases isOpen
      next different =>
        rw [Descriptors.watches_close isOpenToo, Bool.and_eq_false_iff, decide_eq_false_iff_not] at silent
        rcases silent with closed | silent
        · exact closed ⟨other.symm, different⟩
        · exact fine ⟨fd, isOpen, notEpoll, silent⟩

end Leaks

section Runs

variable {F X : Type} {outcome : StartOutcome X} {jobListHead : DoublyLinkedListNode Addr}
  {manager : ManagerState F X} {recvBuf : Memory} {labels : List LoopLabel} {final : LoopState}

/-- A descriptor of a connection is never watched exactly if some registration has failed.  It is
then never closed either. -/
theorem epollThread_leaks_iff
    (returned : initMsgRouteManager outcome (.statics F X jobListHead) = some (0, manager))
    (ran : epollLoop.run (manager.epollThread recvBuf) labels = some final) :
    final.files.strayCloses = 0 ∧
    (¬ final.Leaks <-> epollLoop.AllSteps (fun state label => ¬ failsRegistration state label = true)
      (manager.epollThread recvBuf) labels) ∧
    forall fd more later, final.Unwatched fd -> epollLoop.run final more = some later ->
      later.Unwatched fd ∧ later.files.file fd = final.files.file fd := by
  have start := loopRefines_epollThread returned recvBuf
  have none_ : ¬ (manager.epollThread recvBuf).Leaks := by
    rintro ⟨fd, isOpen, notEpoll, silent⟩
    have isFd := (start.files.isOpen fd).mp isOpen
    simp only [serverInit, List.map_nil, List.mem_cons, notEpoll, List.not_mem_nil, or_false] at isFd
    rw [isFd, (start.watched _).mpr (Or.inl rfl)] at silent
    cases silent
  rcases epollLoop.run_invariant refined_step ⟨_, start⟩ ran with ⟨image, refines⟩
  refine ⟨refines.files.noStray, ?_, fun fd more later unwatched ranMore => ?_⟩
  · have apart : forall state, (Refined state ∧ ¬ state.Leaks) -> ¬ (Refined state ∧ state.Leaks) :=
      fun state fine leaks => fine.2 leaks.2
    have splits : forall state label next, (Refined state ∧ ¬ state.Leaks) ->
        epollLoop.step state label = some next ->
        (¬ failsRegistration state label = true ∧ Refined next ∧ ¬ next.Leaks) ∨
          (¬ ¬ failsRegistration state label = true ∧ Refined next ∧ next.Leaks) := by
      rintro state label next ⟨refined, fine⟩ taken
      have refinedNext := refined_step state label next refined taken
      rcases refined with ⟨image, refines⟩
      have decided := leaks_step_iff refines fine taken
      by_cases fails : failsRegistration state label = true
      · exact Or.inr ⟨not_not.mpr fails, refinedNext, decided.mpr fails⟩
      · exact Or.inl ⟨fails, refinedNext, fun leaks => fails (decided.mp leaks)⟩
    have stays : forall state label next, (Refined state ∧ state.Leaks) ->
        epollLoop.step state label = some next -> Refined next ∧ next.Leaks := by
      rintro state label next ⟨refined, fd, unwatched⟩ taken
      refine ⟨refined_step state label next refined taken, fd, ?_⟩
      rcases refined with ⟨image, refines⟩
      exact (unwatched.step refines taken).1
    rw [← epollLoop.not_doomed_iff_allSteps apart splits stays ⟨⟨_, start⟩, none_⟩ ran]
    exact not_congr (and_iff_right ⟨image, refines⟩).symm
  · have keeps : forall state label next,
        (Refined state ∧ state.Unwatched fd ∧ state.files.file fd = final.files.file fd) ->
        epollLoop.step state label = some next ->
        Refined next ∧ next.Unwatched fd ∧ next.files.file fd = final.files.file fd := by
      rintro state label next ⟨refined, silent, same⟩ taken
      refine ⟨refined_step state label next refined taken, ?_⟩
      rcases refined with ⟨image, refines⟩
      rcases silent.step refines taken with ⟨silentNext, sameNext⟩
      exact ⟨silentNext, sameNext.trans same⟩
    exact (epollLoop.run_invariant keeps ⟨⟨image, refines⟩, unwatched, rfl⟩ ranMore).2

/-- The connection that was accepted last is lost. -/
theorem epollThread_leaks_iff_reuseInBatch : Exists fun manager : ManagerState Unit Unit =>
    Exists fun final =>
      epollLoop.run (manager.epollThread (fun _ => 0)) reuseInBatch = some final ∧ final.Unwatched 7 ∧
      ¬ epollLoop.AllSteps (fun state label => ¬ failsRegistration state label = true)
        (manager.epollThread (fun _ => 0)) reuseInBatch := by
  rcases exists_reuseInBatch with ⟨manager, final, returned, ran, _, isFile, isEpollfd, silent⟩
  have unwatched : final.Unwatched 7 := by
    refine ⟨Option.isSome_iff_exists.mpr ⟨_, isFile⟩, ?_, ?_⟩
    · rw [isEpollfd]
      decide
    · rw [isEpollfd]
      exact silent
  refine ⟨manager, final, ran, unwatched, fun all => ?_⟩
  exact (epollThread_leaks_iff returned ran).2.1.mpr all ⟨7, unwatched⟩

end Runs

end MsgRoute
end V2x
