import Mathlib.Data.List.Basic
import Switchboard.Eventing.Bus

/-!
# Runs of a bus

A run takes steps one after the other.  Its schedule is the list of these steps, and any list is the
schedule of a run unless it asks somebody to go on who has to wait.  So what holds of every schedule
holds whatever the parties do and in whatever order they get their turns.

## The history

What the steps of a run did besides changing the state, in the order in which they did it, is the
history of the run.  Theorems about runs speak of the history, since the state forgets an event as
soon as it has been fanned out.

Records for the log and the waking of parties say nothing about events.  All that is read off a
history here is the same without them, and `news` leaves them out.
-/

namespace Switchboard

/-- The effects of the steps of a run, in order. -/
abbrev History (H : Type) := List (Effect H)

/-- What can become of an event on its way through the bus. -/
inductive Fate where
  | begun
  | accepted
  | refused
  | entered
  | abandoned
  | fannedOut
  | skipped
  deriving DecidableEq

namespace Effect

variable {H : Type}

/-- Whether an effect is a record for the log. -/
def isRecord : Effect H → Bool
  | log _ _ _ => true
  | _ => false

/-- Whether an effect is more than a record for the log or a party that goes on. -/
def isNews : Effect H → Bool
  | log _ _ _ => false
  | wake _ => false
  | _ => true

/-- The published event that an effect is about, and what becomes of it. -/
def fate? : Effect H → Option (Fate × Posting)
  | began n e => some (.begun, ⟨n, e⟩)
  | accepted p => some (.accepted, p)
  | refused p => some (.refused, p)
  | entered p => some (.entered, p)
  | abandoned p => some (.abandoned, p)
  | fannedOut (some n) e => some (.fannedOut, ⟨n, e⟩)
  | skipped (some n) e => some (.skipped, ⟨n, e⟩)
  | _ => none

/-- The published event of an effect, if it has the fate that is asked for. -/
def posting? (f : Fate) (x : Effect H) : Option Posting :=
  match x.fate? with
  | some (g, p) => if g = f then some p else none
  | none => none

/-- The call that returns with an effect. -/
def return? : Effect H → Option Nat
  | returned n => some n
  | _ => none

/-- The listener that an effect adds to the registry. -/
def subscription? : Effect H → Option (Listener H)
  | subscribed l => some l
  | _ => none

/-- The invocation that an effect schedules. -/
def scheduled? : Effect H → Option (Invocation H)
  | scheduled v => some v
  | _ => none

/-- The invocation that an effect ends. -/
def finished? : Effect H → Option (Invocation H)
  | finished v _ => some v
  | _ => none

/-- The fan-out that an effect stands for: the call that published the event, if any, and it. -/
def fanOut? : Effect H → Option (Option Nat × Event)
  | fannedOut source e => some (source, e)
  | _ => none

end Effect

namespace History

variable {H : Type}

/-- A history without what is only for the log or only lets somebody go on. -/
def news (h : History H) : History H :=
  h.filter Effect.isNews

/-- The published events that have had a fate, in the order in which they had it. -/
def postings (f : Fate) (h : History H) : List Posting :=
  h.filterMap (Effect.posting? f)

/-- The calls that have returned, in order. -/
def returns (h : History H) : List Nat :=
  h.filterMap Effect.return?

/-- The listeners that have been added to the registry, in order. -/
def subscriptions (h : History H) : List (Listener H) :=
  h.filterMap Effect.subscription?

/-- The listeners of a way of delivery and an event name among those that have been added to the
registry. -/
def registered (d : Delivery) (name : String) (h : History H) : List (Listener H) :=
  (subscriptions h).filter fun l => l.delivery = d ∧ l.event = name

/-- The asynchronous listeners of an event name among those that have been added to the registry. -/
def hearers (name : String) (h : History H) : List (Listener H) :=
  (subscriptions h).filter fun l => l.delivery = .async ∧ l.event = name

/-- The invocations that have been scheduled, in order. -/
def scheduled (h : History H) : List (Invocation H) :=
  h.filterMap Effect.scheduled?

/-- The invocations that have ended, in order. -/
def finished (h : History H) : List (Invocation H) :=
  h.filterMap Effect.finished?

/-- All fan-outs, those of events that were not published included. -/
def fanOuts (h : History H) : List (Option Nat × Event) :=
  h.filterMap Effect.fanOut?

/-- The invocations that have been scheduled for the event of a publishing call. -/
def scheduledFor (call : Nat) (h : History H) : List (Invocation H) :=
  (scheduled h).filter fun v => v.source = some call

/-! ## What the parts of a history say -/

@[simp] theorem news_nil : news ([] : History H) = [] := rfl

@[simp] theorem news_append (h k : History H) : news (h ++ k) = news h ++ news k :=
  List.filter_append ..

/-- Where a history can be parted at something new, its news can be parted too. -/
theorem news_append_cons {x : Effect H} (hx : x.isNews = true) (before after : History H) :
    news (before ++ x :: after) = news before ++ x :: news after := by
  rw [news_append]
  exact congrArg _ (List.filter_cons_of_pos hx)

@[simp] theorem news_wakes {α : Type} (agent : α → Agent) (xs : List α) :
    news (xs.map fun x => (Effect.wake (agent x) : Effect H)) = [] := by
  rw [news, List.filter_eq_nil_iff]
  intro x hx
  obtain ⟨a, -, rfl⟩ := List.mem_map.1 hx
  exact Bool.false_ne_true

@[simp] theorem news_scheduled (vs : List (Invocation H)) :
    news (vs.map .scheduled) = vs.map .scheduled := by
  rw [news, List.filter_eq_self]
  intro x hx
  obtain ⟨v, -, rfl⟩ := List.mem_map.1 hx
  rfl

/-- What is left out of a history is nothing that can be read off it. -/
theorem filterMap_news {α : Type} {pick : Effect H → Option α}
    (hp : ∀ x, x.isNews = false → pick x = none) (h : History H) :
    (news h).filterMap pick = h.filterMap pick := by
  rw [news, List.filterMap_filter]
  refine List.filterMap_congr fun x _ => ?_
  cases hx : x.isNews with
  | true => rfl
  | false => exact (hp x hx).symm

/-- An effect that is left out has no published event. -/
theorem fate?_eq_none {x : Effect H} (hx : x.isNews = false) : x.fate? = none := by
  cases x with
  | log | wake => rfl
  | _ => exact Bool.noConfusion hx

@[simp] theorem postings_news (f : Fate) (h : History H) : postings f (news h) = postings f h :=
  filterMap_news (fun x hx => by rw [Effect.posting?, fate?_eq_none hx]) h

@[simp] theorem subscriptions_news (h : History H) : subscriptions (news h) = subscriptions h :=
  filterMap_news (fun x hx => by cases x <;> first | rfl | exact Bool.noConfusion hx) h

@[simp] theorem scheduled_news (h : History H) : scheduled (news h) = scheduled h :=
  filterMap_news (fun x hx => by cases x <;> first | rfl | exact Bool.noConfusion hx) h

@[simp] theorem finished_news (h : History H) : finished (news h) = finished h :=
  filterMap_news (fun x hx => by cases x <;> first | rfl | exact Bool.noConfusion hx) h

@[simp] theorem fanOuts_news (h : History H) : fanOuts (news h) = fanOuts h :=
  filterMap_news (fun x hx => by cases x <;> first | rfl | exact Bool.noConfusion hx) h

/-- News are in a history if and only if they are among its news. -/
theorem mem_news {x : Effect H} (hx : x.isNews = true) {h : History H} : x ∈ news h ↔ x ∈ h := by
  rw [news, List.mem_filter, and_iff_left hx]

@[simp] theorem postings_append (f : Fate) (h k : History H) :
    postings f (h ++ k) = postings f h ++ postings f k :=
  List.filterMap_append ..

@[simp] theorem returns_append (h k : History H) : returns (h ++ k) = returns h ++ returns k :=
  List.filterMap_append ..

@[simp] theorem subscriptions_append (h k : History H) :
    subscriptions (h ++ k) = subscriptions h ++ subscriptions k :=
  List.filterMap_append ..

@[simp] theorem scheduled_append (h k : History H) :
    scheduled (h ++ k) = scheduled h ++ scheduled k :=
  List.filterMap_append ..

@[simp] theorem finished_append (h k : History H) : finished (h ++ k) = finished h ++ finished k :=
  List.filterMap_append ..

@[simp] theorem fanOuts_append (h k : History H) : fanOuts (h ++ k) = fanOuts h ++ fanOuts k :=
  List.filterMap_append ..

/-- An event has had a fate if and only if an effect says so. -/
theorem mem_postings {f : Fate} {p : Posting} {h : History H} :
    p ∈ postings f h ↔ ∃ x ∈ h, x.fate? = some (f, p) := by
  rw [postings, List.mem_filterMap]
  refine exists_congr fun x => and_congr_right fun _ => ?_
  rw [Effect.posting?]
  cases hx : x.fate? with
  | none => simp
  | some r =>
    obtain ⟨g, q⟩ := r
    by_cases hg : g = f <;> simp [hg]

theorem mem_postings_begun {p : Posting} {h : History H} :
    p ∈ postings .begun h ↔ .began p.call p.event ∈ h := by
  rw [mem_postings]
  constructor
  · rintro ⟨x, hx, hf⟩
    cases x with
    | began n e =>
      obtain ⟨-, rfl⟩ := Prod.mk.inj (Option.some.inj hf)
      exact hx
    | fannedOut source | skipped source => cases source <;> simp [Effect.fate?] at hf
    | _ => simp [Effect.fate?] at hf
  · exact fun hp => ⟨_, hp, rfl⟩

theorem mem_returns {n : Nat} {h : History H} : n ∈ returns h ↔ .returned n ∈ h := by
  rw [returns, List.mem_filterMap]
  constructor
  · rintro ⟨x, hx, hn⟩
    cases x with
    | returned m =>
      obtain rfl := Option.some.inj hn
      exact hx
    | _ => simp [Effect.return?] at hn
  · exact fun hn => ⟨_, hn, rfl⟩

/-- The event of a publishing call has been fanned out if and only if one of all fan-outs is its
own. -/
theorem mem_postings_fannedOut {p : Posting} {h : History H} :
    p ∈ postings .fannedOut h ↔ (some p.call, p.event) ∈ fanOuts h := by
  rw [mem_postings, fanOuts, List.mem_filterMap]
  refine exists_congr fun x => and_congr_right fun _ => ?_
  cases x with
  | fannedOut source e =>
    cases source with
    | none => simp [Effect.fate?, Effect.fanOut?]
    | some n =>
      rw [Effect.fate?, Effect.fanOut?, Option.some.injEq, Option.some.injEq, Prod.mk.injEq,
        Prod.mk.injEq, Option.some.injEq]
      constructor
      · rintro ⟨-, rfl⟩
        exact ⟨rfl, rfl⟩
      · rintro ⟨rfl, rfl⟩
        exact ⟨rfl, rfl⟩
  | skipped source => cases source <;> simp [Effect.fate?, Effect.fanOut?]
  | _ => simp [Effect.fate?, Effect.fanOut?]

/-! ## Fan-outs

What can be read off the news of a fan-out. -/

/-- The news of a fan-out that schedules invocations. -/
def fan (source : Option Nat) (e : Event) (vs : List (Invocation H)) : History H :=
  .fannedOut source e :: vs.map .scheduled

variable (source : Option Nat) (e : Event) (vs : List (Invocation H))

/-- Invocations do not count for whoever does not ask for them. -/
theorem filterMap_fan {α : Type} {pick : Effect H → Option α}
    (hp : ∀ v, pick (.scheduled v) = none) :
    (fan source e vs).filterMap pick = (pick (.fannedOut source e)).toList := by
  have hrest : (vs.map Effect.scheduled).filterMap pick = [] := by
    rw [List.filterMap_map, List.filterMap_eq_nil_iff]
    exact fun v _ => hp v
  rw [fan, List.filterMap_cons]
  cases hf : pick (.fannedOut source e) with
  | none => exact hrest
  | some a => exact congrArg (List.cons a) hrest

@[simp] theorem postings_fan (f : Fate) : postings f (fan source e vs) =
    ((.fannedOut source e : Effect H).posting? f).toList :=
  filterMap_fan source e vs fun _ => rfl

@[simp] theorem returns_fan : returns (fan source e vs) = [] :=
  filterMap_fan source e vs fun _ => rfl

@[simp] theorem subscriptions_fan : subscriptions (fan source e vs) = [] :=
  filterMap_fan source e vs fun _ => rfl

@[simp] theorem finished_fan : finished (fan source e vs) = [] :=
  filterMap_fan source e vs fun _ => rfl

@[simp] theorem fanOuts_fan : fanOuts (fan source e vs) = [(source, e)] :=
  filterMap_fan source e vs fun _ => rfl

@[simp] theorem scheduled_fan : scheduled (fan source e vs) = vs := by
  rw [scheduled, fan, List.filterMap_cons_none rfl, List.filterMap_map]
  exact List.filterMap_some

@[simp] theorem mem_fan {x : Effect H} :
    x ∈ fan source e vs ↔ x = .fannedOut source e ∨ ∃ v ∈ vs, x = .scheduled v := by
  rw [fan, List.mem_cons, List.mem_map]
  exact or_congr_right (exists_congr fun v => and_congr_right fun _ => eq_comm)

end History

namespace Bus

variable {H : Type}

/-- Take steps one after the other, and collect their effects; `none` if one cannot be taken. -/
def run : List (BusStep H) → Bus H → Option (Bus H × History H)
  | [], b => some (b, [])
  | s :: rest, b =>
    match b.step s with
    | none => none
    | some (next, effects) => (run rest next).map fun r => (r.1, effects ++ r.2)

/-- A new bus with these settings gets to a state by a schedule, with a history. -/
def Reaches (config : DispatcherConfig) (schedule : List (BusStep H)) (b : Bus H) (h : History H) :
    Prop :=
  ∃ fresh, new? config = .ok fresh ∧ fresh.run schedule = some (b, h)

/-- The first step of a run. -/
theorem run_cons_eq_some {b c : Bus H} {s : BusStep H} {rest : List (BusStep H)} {h : History H} :
    b.run (s :: rest) = some (c, h) ↔
      ∃ next effects h', b.step s = some (next, effects) ∧ next.run rest = some (c, h') ∧
        h = effects ++ h' := by
  rw [run]
  cases hs : b.step s with
  | none => simp
  | some r =>
    obtain ⟨next, effects⟩ := r
    simp only [Option.map_eq_some_iff, Option.some.injEq, Prod.mk.injEq, Prod.exists]
    constructor
    · rintro ⟨d, h', hr, rfl, rfl⟩
      exact ⟨next, effects, h', ⟨rfl, rfl⟩, hr, rfl⟩
    · rintro ⟨_, _, h', ⟨rfl, rfl⟩, hr, rfl⟩
      exact ⟨c, h', hr, rfl, rfl⟩

/-- A run of two schedules, one after the other. -/
theorem run_append_eq_some {first second : List (BusStep H)} {b c : Bus H} {h : History H} :
    b.run (first ++ second) = some (c, h) ↔
      ∃ mid h₁ h₂, b.run first = some (mid, h₁) ∧ mid.run second = some (c, h₂) ∧ h = h₁ ++ h₂ := by
  induction first generalizing b h with
  | nil => simp [run]
  | cons s rest ih =>
    rw [List.cons_append, run_cons_eq_some]
    constructor
    · rintro ⟨next, effects, h', hs, hr, rfl⟩
      obtain ⟨mid, h₁, h₂, hf, hm, rfl⟩ := ih.1 hr
      exact ⟨mid, effects ++ h₁, h₂, run_cons_eq_some.2 ⟨next, effects, h₁, hs, hf, rfl⟩, hm,
        (List.append_assoc ..).symm⟩
    · rintro ⟨mid, h₁, h₂, hf, hm, rfl⟩
      obtain ⟨next, effects, h', hs, hr, rfl⟩ := run_cons_eq_some.1 hf
      exact ⟨next, effects, h' ++ h₂, hs, ih.2 ⟨mid, h', h₂, hr, hm, rfl⟩, List.append_assoc ..⟩

/-- A run with one step more. -/
theorem run_concat_eq_some {steps : List (BusStep H)} {s : BusStep H} {b c : Bus H}
    {h : History H} :
    b.run (steps ++ [s]) = some (c, h) ↔
      ∃ mid past effects, b.run steps = some (mid, past) ∧ mid.step s = some (c, effects) ∧
        h = past ++ effects := by
  rw [run_append_eq_some]
  refine exists_congr fun mid => exists_congr fun past => exists_congr fun effects =>
    and_congr_right fun _ => and_congr_left fun _ => ?_
  rw [run_cons_eq_some]
  constructor
  · rintro ⟨next, fx, rest, hs, hr, rfl⟩
    obtain ⟨rfl, rfl⟩ := Prod.mk.inj (Option.some.inj hr)
    rw [List.append_nil]
    exact hs
  · exact fun hs => ⟨c, effects, [], hs, rfl, (List.append_nil _).symm⟩

/-! ## Steps that have been taken -/

/-- A step that has been taken, with the bus before and after it. -/
structure Taken (H : Type) where
  before : Bus H
  step : BusStep H
  after : Bus H
  effects : History H

/-- The steps that are taken in a run. -/
def trace : List (BusStep H) → Bus H → List (Taken H)
  | [], _ => []
  | s :: rest, b =>
    match b.step s with
    | none => []
    | some (next, effects) => ⟨b, s, next, effects⟩ :: trace rest next

@[simp] theorem trace_nil (b : Bus H) : trace [] b = [] := rfl

theorem trace_cons {b next : Bus H} {s : BusStep H} {effects : History H}
    (h : b.step s = some (next, effects)) (rest : List (BusStep H)) :
    trace (s :: rest) b = ⟨b, s, next, effects⟩ :: trace rest next := by
  rw [trace, h]

/-- The steps of two schedules, one after the other. -/
theorem trace_append {first : List (BusStep H)} {b c : Bus H} {h : History H}
    (hrun : b.run first = some (c, h)) (second : List (BusStep H)) :
    trace (first ++ second) b = trace first b ++ trace second c := by
  induction first generalizing b h with
  | nil =>
    obtain ⟨rfl, -⟩ := Prod.mk.inj (Option.some.inj hrun)
    rfl
  | cons s rest ih =>
    obtain ⟨next, effects, h', hs, hr, -⟩ := run_cons_eq_some.1 hrun
    rw [List.cons_append, trace_cons hs, trace_cons hs, ih hr, List.cons_append]

/-- A run with one step more takes that step last. -/
theorem trace_concat {steps : List (BusStep H)} {b mid c : Bus H} {past effects : History H}
    {s : BusStep H} (hrun : b.run steps = some (mid, past)) (hs : mid.step s = some (c, effects)) :
    trace (steps ++ [s]) b = trace steps b ++ [⟨mid, s, c, effects⟩] := by
  rw [trace_append hrun, trace_cons hs, trace_nil]

/-- The schedule decides what a bus gets to. -/
theorem Reaches.unique {config : DispatcherConfig} {schedule : List (BusStep H)} {b c : Bus H}
    {h k : History H} (hb : Reaches config schedule b h) (hc : Reaches config schedule c k) :
    b = c ∧ h = k := by
  obtain ⟨fresh, hf, hb⟩ := hb
  obtain ⟨other, ho, hc⟩ := hc
  have hsame : fresh = other := Except.ok.inj (hf.symm.trans ho)
  rw [hsame] at hb
  exact Prod.mk.inj (Option.some.inj (hb.symm.trans hc))

/-- A run can be parted wherever its schedule can. -/
theorem reaches_append {config : DispatcherConfig} {first second : List (BusStep H)} {b : Bus H}
    {h : History H} :
    Reaches config (first ++ second) b h ↔
      ∃ mid h₁ h₂, Reaches config first mid h₁ ∧ mid.run second = some (b, h₂) ∧ h = h₁ ++ h₂ := by
  constructor
  · rintro ⟨fresh, hf, hrun⟩
    obtain ⟨mid, h₁, h₂, hfirst, hsecond, rfl⟩ := run_append_eq_some.1 hrun
    exact ⟨mid, h₁, h₂, ⟨fresh, hf, hfirst⟩, hsecond, rfl⟩
  · rintro ⟨mid, h₁, h₂, ⟨fresh, hf, hfirst⟩, hsecond, rfl⟩
    exact ⟨fresh, hf, run_append_eq_some.2 ⟨mid, h₁, h₂, hfirst, hsecond, rfl⟩⟩

/-! ## A small bus

Theorems about runs are tried out on a bus with one slot and one worker. -/

/-- One slot and one worker. -/
def smallest : DispatcherConfig := ⟨1, 1⟩

/-- Events of one name, which differ in their time. -/
def tick (second : Fin 60) : Event :=
  .plain "tick" { Instant.epoch with seconds := second, inRange := by omega } "" 0

/-- A listener that hears of them. -/
def clock : Listener Unit :=
  ⟨"tick", .async, "clock", ()⟩

/-- A synchronous one. -/
def chime : Listener Unit :=
  ⟨"tick", .sync, "chime", ()⟩

end Bus
end Switchboard
