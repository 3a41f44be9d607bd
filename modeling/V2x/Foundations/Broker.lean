import Mathlib.Data.List.Basic
import Mathlib.Data.Set.Insert
import V2x.Foundations.TransitionSystem

namespace Foundations

/-!
# A broker of subscriptions

Parties are known by a name and ask for topics.  A message is for everybody, or
for the party with one name, and those who asked for its topic receive it.

A party keeps its first name, and a name stands for one party at a time.  Both
are part of what a broker is, so a request under another name, or under the name
of another party, has no meaning here and the machine does not take it.
-/

universe u v w

/-- The names of the parties, with the topics that they asked for. -/
structure Broker (Party : Type u) (Name : Type v) (Topic : Type w) where
  name : Party -> Option Name
  topics : Party -> Set Topic
  distinct : forall first second known, name first = some known -> name second = some known ->
    first = second
  silent : forall party, name party = none -> topics party = ∅

/-- `isAdd` tells a subscription from its end. -/
inductive BrokerEvent (Party : Type u) (Name : Type v) (Topic : Type w) where
  | request (party : Party) (asked : Name) (topic : Topic) (isAdd : Bool)
  | leave (party : Party)

namespace Broker

variable {Party : Type u} {Name : Type v} {Topic : Type w}

def empty : Broker Party Name Topic where
  name := fun _ => none
  topics := fun _ => ∅
  distinct := fun _ _ _ isName => nomatch isName
  silent := fun _ _ => rfl

/-- The party may speak under this name. -/
structure Admits (broker : Broker Party Name Topic) (party : Party) (asked : Name) : Prop where
  own : forall known, broker.name party = some known -> known = asked
  free : forall other, broker.name other = some asked -> other = party

/-- The party receives what is sent to everybody, or to this addressee, on the topic. -/
def Receives (broker : Broker Party Name Topic) (addressee : Option Name) (topic : Topic)
    (party : Party) : Prop :=
  topic ∈ broker.topics party ∧ forall asked, addressee = some asked -> broker.name party = some asked

/-- Whoever receives anything has a name. -/
theorem exists_name_of_receives {broker : Broker Party Name Topic} {addressee : Option Name}
    {topic : Topic} {party : Party} (receives : broker.Receives addressee topic party) :
    Exists fun known => broker.name party = some known := by
  cases isName : broker.name party with
  | some known => exact ⟨known, rfl⟩
  | none =>
      have asked := receives.1
      rw [broker.silent party isName] at asked
      exact absurd asked (Set.notMem_empty topic)

section Operations

variable [DecidableEq Party]

/-- The topics after a request. -/
def requested (topics : Set Topic) (topic : Topic) (isAdd : Bool) : Set Topic :=
  {other | (other = topic -> isAdd = true) ∧ (other ≠ topic -> other ∈ topics)}

def request (broker : Broker Party Name Topic) (party : Party) (asked : Name) (topic : Topic)
    (isAdd : Bool) (admits : broker.Admits party asked) : Broker Party Name Topic where
  name := Function.update broker.name party (some asked)
  topics := Function.update broker.topics party (requested (broker.topics party) topic isAdd)
  distinct := by
    intro first second known isFirst isSecond
    rw [Function.update_apply] at isFirst isSecond
    split at isFirst
    next firstIs =>
      split at isSecond
      next secondIs => exact firstIs.trans secondIs.symm
      next => exact firstIs.trans (admits.free second (isSecond.trans isFirst.symm)).symm
    next =>
      split at isSecond
      next secondIs => exact (admits.free first (isFirst.trans isSecond.symm)).trans secondIs.symm
      next => exact broker.distinct first second known isFirst isSecond
  silent := by
    intro other unnamed
    rw [Function.update_apply] at unnamed ⊢
    split at unnamed
    · cases unnamed
    next different =>
      rw [if_neg different]
      exact broker.silent other unnamed

def leave (broker : Broker Party Name Topic) (party : Party) : Broker Party Name Topic where
  name := Function.update broker.name party none
  topics := Function.update broker.topics party ∅
  distinct := by
    intro first second known isFirst isSecond
    rw [Function.update_apply] at isFirst isSecond
    split at isFirst
    · cases isFirst
    next =>
      split at isSecond
      · cases isSecond
      next => exact broker.distinct first second known isFirst isSecond
  silent := by
    intro other unnamed
    rw [Function.update_apply] at unnamed ⊢
    split
    · rfl
    next different =>
      rw [if_neg different] at unnamed
      exact broker.silent other unnamed

section Effects

variable {broker : Broker Party Name Topic} {party other : Party} {asked : Name} {topic : Topic}
  {isAdd : Bool} {admits : broker.Admits party asked}

theorem name_request : (broker.request party asked topic isAdd admits).name other =
    if other = party then some asked else broker.name other :=
  Function.update_apply ..

theorem topics_request : (broker.request party asked topic isAdd admits).topics other =
    if other = party then requested (broker.topics party) topic isAdd else broker.topics other :=
  Function.update_apply ..

theorem name_leave : (broker.leave party).name other =
    if other = party then none else broker.name other :=
  Function.update_apply ..

theorem topics_leave : (broker.leave party).topics other =
    if other = party then ∅ else broker.topics other :=
  Function.update_apply ..

end Effects
end Operations

end Broker

open Classical in
/-- The broker as a machine. -/
noncomputable def brokering (Party : Type u) (Name : Type v) (Topic : Type w) [DecidableEq Party] :
    Machine (Broker Party Name Topic) (BrokerEvent Party Name Topic) where
  step broker
    | .request party asked topic isAdd =>
        if admits : broker.Admits party asked then
          some (broker.request party asked topic isAdd admits)
        else none
    | .leave party => some (broker.leave party)

/-! ## What a run leaves -/

section Runs

variable {Party : Type u} {Name : Type v} {Topic : Type w}

/-- The party that asks for something. -/
def BrokerEvent.asker? : BrokerEvent Party Name Topic -> Option Party
  | .request party _ _ _ => some party
  | .leave _ => none

variable [DecidableEq Party]

/-- What a party asks for, in order. -/
def requestsBy (party : Party) (events : List (BrokerEvent Party Name Topic)) :
    List (BrokerEvent Party Name Topic) :=
  events.filter (fun event => decide (event.asker? = some party))

theorem mem_requestsBy_iff {party : Party} {events : List (BrokerEvent Party Name Topic)}
    {known : Name} {topic : Topic} {isAdd : Bool} :
    .request party known topic isAdd ∈ requestsBy party events <->
      .request party known topic isAdd ∈ events := by
  rw [requestsBy, List.mem_filter]
  exact and_iff_left (decide_eq_true rfl)

section Topics

variable [DecidableEq Topic] {party : Party} {topic : Topic}

/-- Whether the event asks for the topic on behalf of the party, or ends that. -/
def BrokerEvent.settles (party : Party) (topic : Topic) : BrokerEvent Party Name Topic -> Option Bool
  | .request asker _ asked isAdd => if asker = party ∧ asked = topic then some isAdd else none
  | .leave gone => if gone = party then some false else none

/-- What the last event about the topic of the party says. -/
def lastAsked (party : Party) (topic : Topic) (events : List (BrokerEvent Party Name Topic)) :
    Option Bool :=
  (events.filterMap (BrokerEvent.settles party topic)).getLast?

theorem lastAsked_snoc (events : List (BrokerEvent Party Name Topic))
    (event : BrokerEvent Party Name Topic) :
    lastAsked party topic (events ++ [event]) =
      (event.settles party topic).or (lastAsked party topic events) := by
  unfold lastAsked
  rw [List.filterMap_append, List.getLast?_append]
  cases settled : event.settles party topic with
  | none => simp only [List.filterMap_cons, settled, List.filterMap_nil, List.getLast?_nil]
  | some isAdd => simp only [List.filterMap_cons, settled, List.filterMap_nil, List.getLast?_singleton]

/-- For a party that has not left, its own requests decide. -/
theorem lastAsked_requestsBy {events : List (BrokerEvent Party Name Topic)}
    (stayed : .leave party ∉ events) :
    lastAsked party topic (requestsBy party events) = lastAsked party topic events := by
  unfold lastAsked requestsBy
  rw [List.filterMap_filter]
  apply congrArg List.getLast?
  apply List.filterMap_congr
  intro event member
  cases event with
  | leave gone =>
      have different : gone ≠ party := by
        rintro rfl
        exact stayed member
      simp only [BrokerEvent.asker?, BrokerEvent.settles, if_neg different, reduceCtorEq,
        decide_false, Bool.false_eq_true, if_false]
  | request asker known asked isAdd =>
      simp only [BrokerEvent.asker?, BrokerEvent.settles, Option.some.injEq, decide_eq_true_eq]
      by_cases same : asker = party
      · simp only [same, true_and, if_true]
      · simp only [same, false_and, if_false]

/-- A party has the topics that it has asked for last. -/
theorem mem_topics_run_iff {events : List (BrokerEvent Party Name Topic)}
    {broker : Broker Party Name Topic}
    (ran : (brokering Party Name Topic).run Broker.empty events = some broker) :
    topic ∈ broker.topics party <-> lastAsked party topic events = some true := by
  induction events using List.reverseRecOn generalizing broker with
  | nil =>
      cases ran
      exact iff_of_false (Set.notMem_empty topic) nofun
  | append_singleton events event inductionHypothesis =>
      rcases ((brokering Party Name Topic).run_snoc_iff _ _ events event).mp ran with
        ⟨middle, before, taken⟩
      have known := inductionHypothesis before
      rw [lastAsked_snoc]
      cases event with
      | leave gone =>
          cases taken
          rw [Broker.topics_leave]
          by_cases same : party = gone
          · simp only [same, BrokerEvent.settles, if_true, Option.some_or, Option.some.injEq,
              Bool.false_eq_true, Set.mem_empty_iff_false]
          · simp only [same, Ne.symm same, BrokerEvent.settles, if_false, Option.none_or, known]
      | request asker asked added isAdd =>
          simp only [brokering] at taken
          split at taken
          next admits =>
            cases taken
            rw [Broker.topics_request]
            by_cases same : party = asker
            · subst same
              by_cases sameTopic : added = topic
              · subst sameTopic
                simp [BrokerEvent.settles, Broker.requested]
              · simp [BrokerEvent.settles, Broker.requested, sameTopic, Ne.symm sameTopic, known]
            · simp only [same, Ne.symm same, BrokerEvent.settles, false_and, if_false,
                Option.none_or, known]
          next => cases taken

end Topics

/-- A party that has not left has the name under which it has asked. -/
theorem name_run_iff {party : Party} {known : Name} {events : List (BrokerEvent Party Name Topic)}
    {broker : Broker Party Name Topic} (stayed : .leave party ∉ events)
    (ran : (brokering Party Name Topic).run Broker.empty events = some broker) :
    broker.name party = some known <-> Exists fun topic => Exists fun isAdd =>
      .request party known topic isAdd ∈ events := by
  induction events using List.reverseRecOn generalizing broker with
  | nil =>
      cases ran
      exact iff_of_false nofun (fun ⟨_, _, member⟩ => List.not_mem_nil member)
  | append_singleton events event inductionHypothesis =>
      rcases ((brokering Party Name Topic).run_snoc_iff _ _ events event).mp ran with
        ⟨middle, before, taken⟩
      rw [List.mem_append, not_or] at stayed
      have earlier := inductionHypothesis stayed.1 before
      simp only [List.mem_append, List.mem_singleton]
      cases event with
      | leave gone =>
          cases taken
          have different : party ≠ gone := by
            rintro rfl
            exact stayed.2 (List.mem_singleton_self _)
          simp only [Broker.name_leave, if_neg different, earlier, reduceCtorEq, or_false]
      | request asker asked added isAdd =>
          simp only [brokering] at taken
          split at taken
          next admits =>
            cases taken
            rw [Broker.name_request]
            by_cases same : party = asker
            · subst same
              rw [if_pos rfl, Option.some.injEq]
              constructor
              · rintro rfl
                exact ⟨added, isAdd, Or.inr rfl⟩
              · rintro ⟨topic, wasAdd, old | new⟩
                · exact (admits.own known (earlier.mpr ⟨topic, wasAdd, old⟩)).symm
                · cases new
                  rfl
            · rw [if_neg same, earlier]
              simp only [BrokerEvent.request.injEq, same, false_and, or_false]
          next => cases taken

end Runs

end Foundations
