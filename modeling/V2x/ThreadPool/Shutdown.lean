import V2x.ThreadPool.Startup

namespace V2x
namespace ThreadPool

open Foundations

/-!
# `ThreadPoolExitHandle`

The handler stops the pool, and in each round it posts the semaphore once and
joins a thread.  The id it joins is `threadId[num]`, whatever the round, and no
thread of the pool has this id.  So every round joins the same foreign id, and
the handler waits for the threads of the pool only when there are none.
-/

variable {F X : Type}

/-- Where the caller stands in `ThreadPoolExitHandle`. -/
inductive ExitPc where
  | stop
  | loopTest (idx : Nat)
  | post (idx : Nat)
  | join (idx : Nat)
  | destroyLock
  | destroySem
  | finished
deriving DecidableEq, Repr

/-- A call of `ThreadPoolExitHandle`, with the thread ids it has joined and the
number of objects it has destroyed. -/
structure ExitHandle where
  num : Nat
  pc : ExitPc
  joined : List (Option Nat)
  destroys : Nat
deriving DecidableEq, Repr

namespace ExitHandle

def start (num : Nat) : ExitHandle where
  num := num
  pc := .stop
  joined := []
  destroys := 0

def goto (handle : ExitHandle) (pc : ExitPc) : ExitHandle :=
  { handle with pc := pc }

end ExitHandle

/-- `pthread_join` waits for a thread that has not ended.  For an id that names
no thread its behaviour is undefined; here the call returns an error at once. -/
def joinReturns (threads : List WorkerPc) (threadId : Option Nat) : Bool :=
  match threadId.bind (fun thread => threads[thread]?) with
  | some pc => decide (pc = .exited)
  | none => true

/-- One step of `ThreadPoolExitHandle`.  `sleep` orders nothing, so it is no step. -/
def exitStep (state : PoolState F X) (handle : ExitHandle) :
    Option (PoolState F X × ExitHandle) :=
  match handle.pc with
  | .stop => some ({ state with isRunning := false }, handle.goto (.loopTest 0))
  | .loopTest idx =>
      some (state, handle.goto (if idx < handle.num then .post idx else .destroyLock))
  | .post idx => some ({ state with sem := state.sem + 1 }, handle.goto (.join idx))
  | .join idx =>
      let threadId := state.threadId handle.num
      if joinReturns state.threads threadId then
        some (state, { handle with pc := .loopTest (idx + 1), joined := handle.joined ++ [threadId] })
      else none
  | .destroyLock =>
      some ({ state with lockLive := false },
        { handle with pc := .destroySem, destroys := handle.destroys + 1 })
  | .destroySem =>
      some ({ state with semLive := false },
        { handle with pc := .finished, destroys := handle.destroys + 1 })
  | .finished => none

/-! ## What a step of the handler changes -/

/-- The handler moves no thread and writes no id. -/
structure ExitChange (state next : PoolState F X) (handle after : ExitHandle) : Prop where
  isInit : next.isInit = state.isInit
  maxThreadNum : next.maxThreadNum = state.maxThreadNum
  threadId : next.threadId = state.threadId
  threads : next.threads = state.threads
  num : after.num = handle.num

theorem exitStep_change {state next : PoolState F X} {handle after : ExitHandle}
    (stepped : exitStep state handle = some (next, after)) : ExitChange state next handle after := by
  rcases handle with ⟨num, pc, joined, destroys⟩
  cases pc with
  | join idx =>
      simp only [exitStep] at stepped
      split at stepped
      · cases stepped
        exact ⟨rfl, rfl, rfl, rfl, rfl⟩
      · cases stepped
  | finished => cases stepped
  | _ =>
      cases stepped
      exact ⟨rfl, rfl, rfl, rfl, rfl⟩

/-! ## What the handler has joined -/

/-- The rounds that are over. -/
def ExitPc.rounds (num : Nat) : ExitPc -> Nat
  | .stop => 0
  | .loopTest idx => idx
  | .post idx => idx
  | .join idx => idx
  | _ => num

/-- The loop variable is in its range. -/
def ExitPc.Within (num : Nat) : ExitPc -> Prop
  | .loopTest idx => idx ≤ num
  | .post idx => idx < num
  | .join idx => idx < num
  | _ => True

def ExitPc.destroys : ExitPc -> Nat
  | .destroySem => 1
  | .finished => 2
  | _ => 0

/-- `pthread_mutex_destroy` is the next step, or it is over. -/
def ExitPc.Destroying : ExitPc -> Prop
  | .destroyLock => True
  | .destroySem => True
  | .finished => True
  | _ => False

/-- Every round has joined the id `threadId[num]`. -/
structure JoinsLast (threadId : Nat -> Option Nat) (handle : ExitHandle) : Prop where
  within : handle.pc.Within handle.num
  joined : handle.joined = List.replicate (handle.pc.rounds handle.num) (threadId handle.num)
  destroys : handle.destroys = handle.pc.destroys

theorem JoinsLast.start (threadId : Nat -> Option Nat) (num : Nat) :
    JoinsLast threadId (.start num) :=
  ⟨trivial, rfl, rfl⟩

theorem JoinsLast.step {state next : PoolState F X} {handle after : ExitHandle}
    (joins : JoinsLast state.threadId handle)
    (stepped : exitStep state handle = some (next, after)) : JoinsLast state.threadId after := by
  rcases handle with ⟨num, pc, joined, destroys⟩
  rcases joins with ⟨within, isJoined, isDestroys⟩
  cases pc with
  | stop =>
      cases stepped
      exact ⟨Nat.zero_le _, isJoined, isDestroys⟩
  | loopTest idx =>
      cases stepped
      by_cases more : idx < num
      · simp only [if_pos more, ExitHandle.goto]
        exact ⟨more, isJoined, isDestroys⟩
      · simp only [if_neg more, ExitHandle.goto]
        have last : idx = num := Nat.le_antisymm within (Nat.not_lt.mp more)
        exact ⟨trivial, last ▸ isJoined, isDestroys⟩
  | post idx =>
      cases stepped
      exact ⟨within, isJoined, isDestroys⟩
  | join idx =>
      simp only [exitStep] at stepped
      split at stepped
      · cases stepped
        refine ⟨within, ?_, isDestroys⟩
        change joined ++ [state.threadId num] = List.replicate (idx + 1) (state.threadId num)
        rw [List.replicate_succ']
        exact congrArg (fun before => before ++ [state.threadId num]) isJoined
      · cases stepped
  | destroyLock =>
      cases stepped
      exact ⟨trivial, isJoined, congrArg Nat.succ isDestroys⟩
  | destroySem =>
      cases stepped
      exact ⟨trivial, isJoined, congrArg Nat.succ isDestroys⟩
  | finished => cases stepped

/-! ## Waiting for the pool -/

/-- Every created thread was joined once, no other id was joined, and so every
created thread has ended. -/
structure Waited (state : PoolState F X) (handle : ExitHandle) : Prop where
  once : forall idx, idx < handle.num -> handle.joined.count (state.threadId idx) = 1
  noOther : forall threadId, threadId ∈ handle.joined ->
    Exists fun idx => idx < handle.num ∧ state.threadId idx = threadId
  ended : forall idx thread, idx < handle.num -> state.threadId idx = some thread ->
    state.threads[thread]? = some .exited

/-- The id that every round joins belongs to no thread of the pool. -/
theorem Crew.last_ne_first {state : PoolState F X} {base num : Nat} (crew : Crew state base num)
    (positive : 0 < num) : state.threadId num ≠ state.threadId 0 := by
  intro same
  rw [crew.ids 0 positive] at same
  exact Nat.lt_irrefl base (crew.others num (base + 0) (Nat.le_refl num) same)

theorem waited_iff {state : PoolState F X} {handle : ExitHandle} {base : Nat}
    (crew : Crew state base handle.num) (joins : JoinsLast state.threadId handle)
    (destroying : handle.pc.Destroying) : Waited state handle <-> handle.num = 0 := by
  have allRounds : handle.pc.rounds handle.num = handle.num := by
    cases isPc : handle.pc with
    | destroyLock => rfl
    | destroySem => rfl
    | finished => rfl
    | _ =>
        rw [isPc] at destroying
        exact destroying.elim
  have isJoined := joins.joined
  rw [allRounds] at isJoined
  constructor
  · intro waited
    by_contra nonzero
    have positive := Nat.pos_of_ne_zero nonzero
    have counted := waited.once 0 positive
    have different : (state.threadId handle.num == state.threadId 0) = false :=
      beq_eq_false_iff_ne.mpr (crew.last_ne_first positive)
    rw [isJoined, List.count_replicate, different, if_neg Bool.false_ne_true] at counted
    cases counted
  · intro isZero
    rw [isZero] at isJoined
    constructor
    · exact fun idx below => absurd (isZero ▸ below) (Nat.not_lt_zero idx)
    · intro threadId member
      rw [isJoined] at member
      cases member
    · exact fun idx thread below => absurd (isZero ▸ below) (Nat.not_lt_zero idx)

end ThreadPool
end V2x
