/-
What a calculator of a session depends on.

A step of a session adds a calculator or acts on the one it addresses, and every
other calculator stays as it was. An action looks at nothing but its calculator:
what it makes of it and what is reported are given by the calculator and the
action (`Acts`). A calculator is therefore what its own history makes of a new
one: the actions on it, after those on the calculator that it was copied from,
up to the copying. An evaluation makes nothing of its calculator, so it may as
well be left out.

Both are said of the whole account of a session, that is of the steps with what
is reported of each. Histories are read off an account from its end.
-/
import StackCalculator.Session
import Mathlib.Data.List.Induction

set_option autoImplicit false

namespace StackCalculator.Session

variable {cs next last : Calculators} {c changed : Calculator} {report : Report}

/-! ## What a step does -/

/-- What is reported of a mode being asked for. -/
def Report.ofRequest (requested : String) : Report :=
  ⟨.done, requested, Calculator.setModeRecords requested⟩

/-- What is reported of an evaluation. -/
def Report.ofEvaluation (c : Calculator) (entry : String) : Report :=
  ⟨.value (c.evaluate entry), c.requested, c.evaluateRecords entry⟩

/-- **An action on a calculator**: what it makes of it, and what is reported. -/
inductive Acts (c : Calculator) : Action → Calculator → Report → Prop where
  | setMode (requested : String) :
      Acts c (.setMode requested) (c.setMode requested) (.ofRequest requested)
  | mode : Acts c .mode c ⟨.mode c.mode, c.requested, []⟩
  | evaluate (entry : String) : Acts c (.evaluate entry) c (.ofEvaluation c entry)

theorem set_of_getElem? {slot : Nat} (h : cs[slot]? = some c) : cs.set slot c = cs := by
  obtain ⟨hslot, rfl⟩ := List.getElem?_eq_some_iff.mp h
  exact List.set_getElem_self hslot

/-- **What a step does**: it adds a new calculator, or a copy of the one that it
addresses, or acts on that one. -/
theorem step?_cases {s : Step} (h : step? cs s = some (next, report)) :
    ∃ c, cs[s.slot]? = some c ∧
      ((s.action = .create ∧ next = cs ++ [default] ∧
          report = ⟨.added cs.length, c.requested, []⟩) ∨
        (s.action = .copy ∧ next = cs ++ [c] ∧ report = ⟨.added cs.length, c.requested, []⟩) ∨
        ∃ changed, Acts c s.action changed report ∧ next = cs.set s.slot changed) := by
  obtain ⟨slot, action⟩ := s
  obtain ⟨c, hc, hstep⟩ := Option.bind_eq_some_iff.mp h
  refine ⟨c, hc, ?_⟩
  cases action with
  | create =>
    obtain ⟨rfl, rfl⟩ := Prod.mk.inj (Option.some.inj hstep)
    exact .inl ⟨rfl, rfl, rfl⟩
  | copy =>
    obtain ⟨rfl, rfl⟩ := Prod.mk.inj (Option.some.inj hstep)
    exact .inr (.inl ⟨rfl, rfl, rfl⟩)
  | setMode requested =>
    obtain ⟨rfl, rfl⟩ := Prod.mk.inj (Option.some.inj hstep)
    exact .inr (.inr ⟨_, .setMode requested, rfl⟩)
  | mode =>
    obtain ⟨rfl, rfl⟩ := Prod.mk.inj (Option.some.inj hstep)
    exact .inr (.inr ⟨c, .mode, (set_of_getElem? hc).symm⟩)
  | evaluate entry =>
    obtain ⟨rfl, rfl⟩ := Prod.mk.inj (Option.some.inj hstep)
    exact .inr (.inr ⟨c, .evaluate entry, (set_of_getElem? hc).symm⟩)

/-- An action is taken alike in every session that has the calculator. -/
theorem step?_of_acts {slot : Nat} {action : Action} (hc : cs[slot]? = some c)
    (h : Acts c action changed report) :
    step? cs ⟨slot, action⟩ = some (cs.set slot changed, report) := by
  rw [step?, hc]
  cases h with
  | setMode requested => rfl
  | mode => rw [set_of_getElem? hc]; rfl
  | evaluate entry => rw [set_of_getElem? hc]; rfl

/-! ## Accounts -/

/-- The steps of a session, with what is reported of each. -/
abbrev Account := List (Step × Report)

/-- The calculators after steps. -/
def after? (cs : Calculators) (steps : List Step) : Option Calculators :=
  steps.foldlM (fun cs s => (step? cs s).map Prod.fst) cs

/-- **A session**: its account, and the calculators that it leaves. -/
inductive Runs : Calculators → Account → Calculators → Prop where
  | nil (cs : Calculators) : Runs cs [] cs
  | cons {cs next last : Calculators} {s : Step} {report : Report} {account : Account}
      (first : step? cs s = some (next, report)) (rest : Runs next account last) :
      Runs cs ((s, report) :: account) last

theorem exists_runs {steps : List Step} {reports : List Report}
    (h : run? cs steps = some reports) :
    ∃ last, Runs cs (steps.zip reports) last ∧ after? cs steps = some last := by
  induction steps generalizing cs reports with
  | nil => exact ⟨cs, .nil cs, rfl⟩
  | cons s rest ih =>
    obtain ⟨⟨next, report⟩, hstep, hrest⟩ := Option.bind_eq_some_iff.mp h
    obtain ⟨others, hothers, hreports⟩ := Option.bind_eq_some_iff.mp hrest
    obtain rfl := Option.some.inj hreports
    obtain ⟨last, hruns, hafter⟩ := ih hothers
    refine ⟨last, .cons hstep hruns, ?_⟩
    rw [after?, List.foldlM_cons, hstep]
    exact hafter

namespace Runs

variable {account : Account}

theorem run?_eq (h : Runs cs account last) :
    run? cs (account.map Prod.fst) = some (account.map Prod.snd) := by
  induction h with
  | nil => rfl
  | cons first _ ih =>
    exact Option.bind_eq_some_iff.mpr ⟨_, first, Option.bind_eq_some_iff.mpr ⟨_, ih, rfl⟩⟩

theorem after?_eq (h : Runs cs account last) :
    after? cs (account.map Prod.fst) = some last := by
  induction h with
  | nil => rfl
  | cons first _ ih =>
    rw [List.map_cons, after?, List.foldlM_cons, first]
    exact ih

/-- **A session in two parts.** -/
theorem append_iff {front back : Account} :
    Runs cs (front ++ back) last ↔ ∃ mid, Runs cs front mid ∧ Runs mid back last := by
  constructor
  · intro h
    induction front generalizing cs with
    | nil => exact ⟨cs, .nil cs, h⟩
    | cons taken rest ih =>
      cases h with
      | cons first h =>
        obtain ⟨mid, hrest, hback⟩ := ih h
        exact ⟨mid, .cons first hrest, hback⟩
  · rintro ⟨mid, hfront, hback⟩
    induction hfront with
    | nil => exact hback
    | cons first _ ih => exact .cons first (ih hback)

theorem singleton_iff {s : Step} : Runs cs [(s, report)] last ↔ step? cs s = some (last, report) := by
  constructor
  · intro h
    cases h with
    | cons first h =>
      cases h
      exact first
  · intro h
    exact .cons h (.nil last)

end Runs

/-! ## Histories -/

/-- Whether an action adds a calculator. -/
def Action.adds : Action → Bool
  | .create | .copy => true
  | _ => false

theorem Acts.adds_eq_false {action : Action} (h : Acts c action changed report) :
    action.adds = false := by
  cases h with
  | setMode requested => rfl
  | mode => rfl
  | evaluate entry => rfl

/-- How many calculators there are after steps, the last one first. -/
def slots (past : Account) : Nat := 1 + past.countP fun taken => taken.1.action.adds

theorem slots_cons (taken : Step × Report) (past : Account) :
    slots (taken :: past) = slots past + if taken.1.action.adds then 1 else 0 := by
  rw [slots, List.countP_cons, slots, Nat.add_assoc]

/-- **The history of a calculator**, read off the account from its end: nothing
before the calculator was added as a new one; before it was added as a copy, the
history of the calculator copied; and otherwise the actions on it. -/
def historyBack : Account → Nat → List (Action × Report)
  | [], _ => []
  | (⟨_, .create⟩, _) :: past, slot => if slot = slots past then [] else historyBack past slot
  | (⟨copied, .copy⟩, _) :: past, slot =>
    historyBack past (if slot = slots past then copied else slot)
  | (⟨addressed, action⟩, report) :: past, slot =>
    historyBack past slot ++ if slot = addressed then [(action, report)] else []

/-- The history of the calculator in a slot, in order. -/
def history (account : Account) (slot : Nat) : List (Action × Report) :=
  historyBack account.reverse slot

/-- A history as the account of a session of one calculator. -/
def alone (own : List (Action × Report)) : Account :=
  own.map fun taken => (⟨0, taken.1⟩, taken.2)

/-- **Calculators that are what their histories make** of a new calculator. -/
structure Faithful (past : Account) (cs : Calculators) : Prop where
  count : cs.length = slots past
  replays : ∀ slot c, cs[slot]? = some c → Runs start (alone (historyBack past slot)) [c]

theorem historyBack_of_acts {action : Action} (h : Acts c action changed report) (past : Account)
    (addressed slot : Nat) :
    historyBack ((⟨addressed, action⟩, report) :: past) slot
      = historyBack past slot ++ if slot = addressed then [(action, report)] else [] := by
  cases h with
  | setMode requested => rfl
  | mode => rfl
  | evaluate entry => rfl

/-- The calculator added comes last. -/
theorem getElem?_concat_cases {added : Calculator} {slot : Nat}
    (h : (cs ++ [added])[slot]? = some c) :
    (slot = cs.length ∧ c = added) ∨ (slot ≠ cs.length ∧ cs[slot]? = some c) := by
  rcases Nat.lt_trichotomy slot cs.length with hlt | rfl | hgt
  · rw [List.getElem?_append_left hlt] at h
    exact .inr ⟨Nat.ne_of_lt hlt, h⟩
  · rw [List.getElem?_concat_length] at h
    exact .inl ⟨rfl, (Option.some.inj h).symm⟩
  · rw [List.getElem?_eq_none (by rw [List.length_append, List.length_singleton]; omega)] at h
    exact absurd h nofun

section Faithful

variable {past : Account}

/-- A calculator may be added that is what its history makes it, if no other
history changes by that. -/
theorem Faithful.add {taken : Step × Report} {added : Calculator} (h : Faithful past cs)
    (hadds : taken.1.action.adds = true)
    (hnew : Runs start (alone (historyBack (taken :: past) cs.length)) [added])
    (hold : ∀ slot ≠ cs.length, historyBack (taken :: past) slot = historyBack past slot) :
    Faithful (taken :: past) (cs ++ [added]) := by
  constructor
  · rw [slots_cons, ← h.count, if_pos hadds, List.length_append, List.length_singleton]
  · intro slot held hheld
    rcases getElem?_concat_cases hheld with ⟨rfl, rfl⟩ | ⟨hslot, hheld⟩
    · exact hnew
    · rw [hold slot hslot]
      exact h.replays slot held hheld

/-- An action goes into the history of its own calculator and into no other. -/
theorem Faithful.act {addressed : Nat} {action : Action} (h : Faithful past cs)
    (hc : cs[addressed]? = some c) (hacts : Acts c action changed report) :
    Faithful ((⟨addressed, action⟩, report) :: past) (cs.set addressed changed) := by
  constructor
  · rw [slots_cons, ← h.count, hacts.adds_eq_false, List.length_set]
    rfl
  · intro slot held hheld
    rw [historyBack_of_acts hacts]
    by_cases hslot : slot = addressed
    · subst hslot
      rw [List.getElem?_set_self (List.getElem?_eq_some_iff.mp hc).1] at hheld
      obtain rfl := Option.some.inj hheld
      rw [if_pos rfl, alone, List.map_append]
      exact Runs.append_iff.mpr
        ⟨[c], h.replays slot c hc, Runs.singleton_iff.mpr (step?_of_acts rfl hacts)⟩
    · rw [List.getElem?_set_ne (Ne.symm hslot)] at hheld
      rw [if_neg hslot, List.append_nil]
      exact h.replays slot held hheld

/-- **A step keeps calculators faithful** to their histories. -/
theorem Faithful.step {s : Step} (h : Faithful past cs)
    (hstep : step? cs s = some (next, report)) : Faithful ((s, report) :: past) next := by
  obtain ⟨addressed, action⟩ := s
  obtain ⟨c, hc, ⟨rfl, rfl, rfl⟩ | ⟨rfl, rfl, rfl⟩ | ⟨changed, hacts, rfl⟩⟩ := step?_cases hstep
  · -- a new calculator has no history
    refine h.add rfl ?_ fun slot hslot => ?_
    · rw [historyBack, if_pos h.count]
      exact .nil start
    · rw [historyBack, if_neg (h.count ▸ hslot)]
  · -- a copy has the history of the calculator copied
    refine h.add rfl ?_ fun slot hslot => ?_
    · rw [historyBack, if_pos h.count]
      exact h.replays addressed c hc
    · rw [historyBack, if_neg (h.count ▸ hslot)]
  · exact h.act hc hacts

end Faithful

/-- **A session keeps calculators faithful** to their histories. -/
theorem Runs.faithful {account : Account} (h : Runs start account last) :
    Faithful account.reverse last := by
  induction account using List.reverseRecOn generalizing last with
  | nil =>
    cases h
    refine ⟨rfl, fun slot c hc => ?_⟩
    cases slot with
    | zero =>
      obtain rfl := Option.some.inj hc
      exact .nil start
    | succ slot => exact absurd hc nofun
  | append_singleton account taken ih =>
    obtain ⟨mid, hfront, hlast⟩ := Runs.append_iff.mp h
    rw [List.reverse_concat]
    exact (ih hfront).step (Runs.singleton_iff.mp hlast)

/-! ## Evaluations left out -/

/-- **An account without some of its evaluations.** -/
inductive Thinned : Account → Account → Prop where
  | nil : Thinned [] []
  | keep {account kept : Account} (taken : Step × Report) (rest : Thinned account kept) :
      Thinned (taken :: account) (taken :: kept)
  | delete {account kept : Account} (slot : Nat) (entry : String) (report : Report)
      (rest : Thinned account kept) :
      Thinned ((⟨slot, .evaluate entry⟩, report) :: account) kept

/-- **An evaluation** changes no calculator. -/
theorem step?_evaluate {slot : Nat} {entry : String}
    (h : step? cs ⟨slot, .evaluate entry⟩ = some (next, report)) : next = cs := by
  obtain ⟨c, hc, ⟨haction, -⟩ | ⟨haction, -⟩ | ⟨changed, hacts, rfl⟩⟩ := step?_cases h
  · exact absurd haction nofun
  · exact absurd haction nofun
  · cases hacts
    exact set_of_getElem? hc

/-- **A session without some of its evaluations** is a session, with the same
reports of the other steps. -/
theorem Runs.thinned {account kept : Account} (h : Runs cs account last)
    (hkept : Thinned account kept) : Runs cs kept last := by
  induction hkept generalizing cs with
  | nil => exact h
  | keep taken _ ih =>
    cases h with
    | cons first rest => exact .cons first (ih rest)
  | delete slot entry report _ ih =>
    cases h with
    | cons first rest =>
      rw [step?_evaluate first] at rest
      exact ih rest

/-! ## Sessions -/

/-- **Calculators do not influence one another, and evaluations leave no trace.**
In every session, the actions in the history of a calculator, taken on one new
calculator and in that order, are reported as they are in the session: with the
same answer, the same mode stored and the same records. They leave that
calculator as the session leaves it. And without any of its evaluations,
whatever came of them, a session has the same reports of the other steps, and
leaves the same calculators. -/
theorem run_histories {steps : List Step} {reports : List Report}
    (h : run? start steps = some reports) :
    ∃ cs, after? start steps = some cs ∧
      (∀ slot c, cs[slot]? = some c →
        let own := alone (history (steps.zip reports) slot)
        run? start (own.map Prod.fst) = some (own.map Prod.snd) ∧
          after? start (own.map Prod.fst) = some [c]) ∧
      ∀ kept, Thinned (steps.zip reports) kept →
        run? start (kept.map Prod.fst) = some (kept.map Prod.snd) ∧
          after? start (kept.map Prod.fst) = some cs := by
  obtain ⟨cs, hruns, hafter⟩ := exists_runs h
  refine ⟨cs, hafter, ?_, ?_⟩
  · intro slot c hc own
    have hown : Runs start own [c] := hruns.faithful.replays slot c hc
    exact ⟨hown.run?_eq, hown.after?_eq⟩
  · intro kept hthinned
    have hkept : Runs start kept cs := hruns.thinned hthinned
    exact ⟨hkept.run?_eq, hkept.after?_eq⟩

/-- A copy made between two requests, with an evaluation that fails before it;
the copy replayed alone, and the session without the evaluations of the first. -/
theorem run_histories_copied :
    let parenthesised : Calculator := { requested := "infix" }
    let refused : Calculator := { requested := "postfix" }
    let steps : List Step := [⟨0, .setMode "infix"⟩, ⟨0, .evaluate "( 1 + 2"⟩, ⟨0, .copy⟩,
      ⟨0, .setMode "postfix"⟩, ⟨1, .evaluate "( 1 + 2 )"⟩, ⟨0, .evaluate "( 1 + 2 )"⟩]
    let copied : Report := ⟨.added 1, "infix", []⟩
    run? start steps = some [.ofRequest "infix", .ofEvaluation parenthesised "( 1 + 2", copied,
        .ofRequest "postfix", .ofEvaluation parenthesised "( 1 + 2 )",
        .ofEvaluation refused "( 1 + 2 )"] ∧
      run? start [⟨0, .setMode "infix"⟩, ⟨0, .evaluate "( 1 + 2"⟩, ⟨0, .evaluate "( 1 + 2 )"⟩]
        = some [.ofRequest "infix", .ofEvaluation parenthesised "( 1 + 2",
            .ofEvaluation parenthesised "( 1 + 2 )"] ∧
      run? start [⟨0, .setMode "infix"⟩, ⟨0, .copy⟩, ⟨0, .setMode "postfix"⟩,
          ⟨1, .evaluate "( 1 + 2 )"⟩]
        = some [.ofRequest "infix", copied, .ofRequest "postfix",
            .ofEvaluation parenthesised "( 1 + 2 )"] := by
  intro parenthesised refused steps copied
  have hrun : run? start steps = some [.ofRequest "infix", .ofEvaluation parenthesised "( 1 + 2",
      copied, .ofRequest "postfix", .ofEvaluation parenthesised "( 1 + 2 )",
      .ofEvaluation refused "( 1 + 2 )"] := rfl
  obtain ⟨cs, hafter, hhistories, hthinned⟩ := run_histories hrun
  obtain rfl : [refused, parenthesised] = cs := Option.some.inj hafter
  refine ⟨hrun, (hhistories 1 parenthesised rfl).1, ?_⟩
  exact (hthinned _ (.keep _ (.delete _ _ _ (.keep _ (.keep _ (.keep _ (.delete _ _ _
    .nil))))))).1

end StackCalculator.Session
