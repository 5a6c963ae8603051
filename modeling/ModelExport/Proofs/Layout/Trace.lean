/-
# ModelExport.Proofs.Layout.Trace — what is written, told from beginning to end

A trace tells the steps of a writing in order and marks between them where parts
begin and end. A writing that meets a fault is told up to there, so a trace also
says what was done before the fault. Events fit a page if every part begins and ends
at the start of a line at the depth of its tier, and no dedent comes at the outermost
level (`Fit`). Traces that fit and lead from level to level can be put together
(`Trace.Nests`); a list of steps is such a trace as soon as it leads from level to
level at two levels next to each other (`Trace.nests_does`).
-/
import ModelExport.Proofs.Fold
import ModelExport.Proofs.Layout.Depth

set_option autoImplicit false

namespace ModelExport.Layout

/-! ## Events -/

/-- How far in a part of a document stands. -/
inductive Tier where
  /-- A comment, the imports or a class, inside no block. -/
  | item
  /-- A member of a class. -/
  | member
  /-- A statement of a function. -/
  | statement
  /-- A line of values inside the initializer of a constant, which stands on a tier itself. -/
  | values (around : Tier)
deriving DecidableEq

/-- The level of the parts of a tier. -/
def Tier.depth : Tier → Nat
  | .item => 0
  | .member => 1
  | .statement => 2
  | .values around => around.depth + 1

/-- What happens while a document is written. -/
inductive Event where
  | step (taken : Step)
  /-- A part begins. -/
  | begins (tier : Tier)
  /-- A part ends. -/
  | ends (tier : Tier)
deriving DecidableEq

/-- The steps of an event: parts begin and end without one. -/
def Event.steps : Event → List Step
  | .step taken => [taken]
  | _ => []

/-- The steps of events, in order. -/
def stepsOf (events : List Event) : List Step := events.flatMap Event.steps

/-- Whether an event may happen on a page. -/
def Event.Fits (page : Page) : Event → Prop
  | .begins tier => page.level = tier.depth ∧ page.atLineStart = true
  | .ends tier => page.level = tier.depth ∧ page.atLineStart = true
  | .step .dedent => 0 < page.level
  | .step _ => True

/-- Whether events may happen one after the other, from a page on. -/
def Fit (width : Nat) : Page → List Event → Prop
  | _, [] => True
  | page, event :: rest => event.Fits page ∧ Fit width (page.run width event.steps) rest

@[simp] theorem stepsOf_cons (event : Event) (rest : List Event) :
    stepsOf (event :: rest) = event.steps ++ stepsOf rest := List.flatMap_cons

@[simp] theorem stepsOf_append (front back : List Event) :
    stepsOf (front ++ back) = stepsOf front ++ stepsOf back := List.flatMap_append

@[simp] theorem stepsOf_map_step (steps : List Step) : stepsOf (steps.map Event.step) = steps := by
  induction steps with
  | nil => rfl
  | cons first rest ih => rw [List.map_cons, stepsOf_cons, ih]; rfl

theorem fit_append {width : Nat} {page : Page} {front back : List Event} :
    Fit width page (front ++ back) ↔
      Fit width page front ∧ Fit width (page.run width (stepsOf front)) back := by
  induction front generalizing page with
  | nil => exact (and_iff_right trivial).symm
  | cons event rest ih =>
      rw [List.cons_append, Fit, Fit, ih, stepsOf_cons, Page.run_append, and_assoc]

/-- Every event fits the page that the events before it lead to. -/
theorem Fit.at {width : Nat} {page : Page} {front back : List Event} {event : Event}
    (fit : Fit width page (front ++ event :: back)) :
    event.Fits (page.run width (stepsOf front)) :=
  (fit_append.1 fit).2.1

theorem fit_steps (width : Nat) {page : Page} {steps : List Step}
    (above : ∀ front back, steps = front ++ .dedent :: back → 0 < levelAfter page.level front) :
    Fit width page (steps.map Event.step) := by
  induction steps generalizing page with
  | nil => trivial
  | cons first rest ih =>
      refine ⟨?_, ih fun front back reached => ?_⟩
      · cases first with
        | dedent => exact above [] rest rfl
        | _ => trivial
      · have later := above (first :: front) back (by rw [reached, List.cons_append])
        rwa [Event.steps, Page.run_cons, Page.run_nil, Page.level_step]

/-! ## Traces -/

/-- What a writing does, up to its end or to a fault. -/
structure Trace (ε : Type) where
  events : List Event
  fault? : Option ε

namespace Trace

variable {ε : Type}

/-- Steps are carried out. -/
def does (steps : List Step) : Trace ε := ⟨steps.map .step, none⟩

/-- There is a fault. -/
def stops (fault : ε) : Trace ε := ⟨[], some fault⟩

/-- One writing after another, which is not begun if the first comes to a fault. -/
def andThen (first second : Trace ε) : Trace ε :=
  match first.fault? with
  | none => ⟨first.events ++ second.events, second.fault?⟩
  | some _ => first

/-- Writings one after the other. -/
def all : List (Trace ε) → Trace ε
  | [] => does []
  | first :: rest => first.andThen (all rest)

/-- Writings one after the other, with a blank line between any two. -/
def spaced : List (Trace ε) → Trace ε
  | [] => does []
  | [last] => last
  | first :: rest => all [first, does [.newline], spaced rest]

/-- A writing that is a part of its own. A part that comes to a fault does not end. -/
def part (tier : Tier) (trace : Trace ε) : Trace ε :=
  all [⟨[.begins tier], none⟩, trace, ⟨[.ends tier], none⟩]

/-- The steps of a writing that comes to its end. -/
def steps? (trace : Trace ε) : Except ε (List Step) :=
  match trace.fault? with
  | none => .ok (stepsOf trace.events)
  | some fault => .error fault

/-- Where a writing leads a page, unless it comes to a fault. -/
def outcome (trace : Trace ε) (width : Nat) (page : Page) : Except ε Page :=
  match trace.fault? with
  | none => .ok (page.run width (stepsOf trace.events))
  | some fault => .error fault

theorem outcome_eq (trace : Trace ε) (width : Nat) (page : Page) :
    trace.outcome width page = trace.steps?.map (page.run width) := by
  rw [outcome, steps?]
  cases trace.fault? <;> rfl

@[simp] theorem steps?_does (steps : List Step) : (does steps : Trace ε).steps? = .ok steps :=
  congrArg Except.ok (stepsOf_map_step steps)

@[simp] theorem steps?_stops (fault : ε) : (stops fault).steps? = .error fault := rfl

theorem steps?_andThen (first second : Trace ε) : (first.andThen second).steps? =
    first.steps? >>= fun front => second.steps?.map (front ++ ·) := by
  obtain ⟨events, fault?⟩ := first
  cases fault? with
  | some fault => rfl
  | none =>
      obtain ⟨later, stopped?⟩ := second
      cases stopped? with
      | some fault => rfl
      | none => exact congrArg Except.ok (stepsOf_append events later)

@[simp] theorem steps?_all_nil : (all [] : Trace ε).steps? = .ok [] := rfl

@[simp] theorem steps?_all_cons (first : Trace ε) (rest : List (Trace ε)) :
    (all (first :: rest)).steps? =
      first.steps? >>= fun front => (all rest).steps?.map (front ++ ·) :=
  steps?_andThen first (all rest)

/-- Where a part begins and ends has no influence on its steps. -/
@[simp] theorem steps?_part (tier : Tier) (trace : Trace ε) :
    (trace.part tier).steps? = trace.steps? := by
  have mark (event : Event) (silent : event.steps = []) :
      (⟨[event], none⟩ : Trace ε).steps? = .ok [] := by
    rw [steps?, stepsOf_cons, silent]
    rfl
  rw [part, steps?_all_cons, steps?_all_cons, steps?_all_cons, mark _ rfl, mark _ rfl]
  cases trace.steps? with
  | error fault => rfl
  | ok steps => exact congrArg Except.ok (List.append_nil steps)

/-- The steps of many writings, one after the other. -/
theorem steps?_all_map {α : Type} (trace : α → Trace ε) (items : List α) :
    (all (items.map trace)).steps? =
      (items.mapM fun item => (trace item).steps?).map List.flatten := by
  induction items with
  | nil => rfl
  | cons item rest ih =>
      rw [List.map_cons, steps?_all_cons, ih, List.mapM_cons]
      cases (trace item).steps? with
      | error fault => rfl
      | ok front => cases rest.mapM fun item => (trace item).steps? <;> rfl

theorem steps?_spaced_map {α : Type} (trace : α → Trace ε) (items : List α) :
    (spaced (items.map trace)).steps? =
      (items.mapM fun item => (trace item).steps?).map [Step.newline].intercalate := by
  induction items with
  | nil => rfl
  | cons item rest ih =>
      rw [List.mapM_cons]
      cases rest with
      | nil =>
          rw [List.map_singleton, spaced]
          cases (trace item).steps? <;> simp
      | cons next rest =>
          rw [List.map_cons, List.map_cons, spaced, ← List.map_cons, steps?_all_cons,
            steps?_all_cons, steps?_all_cons, steps?_does, ih, List.mapM_cons]
          · cases (trace item).steps? with
            | error fault => rfl
            | ok front =>
                cases (trace next).steps? with
                | error fault => rfl
                | ok second => cases rest.mapM fun item => (trace item).steps? <;> simp
          · exact List.cons_ne_nil _ _

/-- The steps of many parts of one tier. -/
theorem steps?_all_parts {α : Type} (tier : Tier) (spell : α → List Step) (items : List α) :
    (all (items.map fun item => part tier (does (spell item))) : Trace ε).steps? =
      .ok (items.flatMap spell) := by
  induction items with
  | nil => rfl
  | cons item rest ih => rw [List.map_cons, steps?_all_cons, steps?_part, steps?_does, ih]; rfl

/-! ## Nesting -/

/-- Begun at the start of a line at one level, the events of a trace fit, and if it comes to its end
it leads to the start of a line at another level. -/
structure Nests (before after : Nat) (trace : Trace ε) : Prop where
  fit : ∀ (width : Nat) (text : String), Fit width ⟨text, before, true⟩ trace.events
  leads : trace.fault? = none → Leads before after (stepsOf trace.events)

variable {before between after level : Nat}

/-- **Steps are a trace that fits if they lead from level to level, also one level further in.** -/
theorem nests_does {steps : List Step} (own : Leads before after steps)
    (raised : Leads (before + 1) (after + 1) steps) :
    (does steps : Trace ε).Nests before after where
  fit width text := fit_steps width fun front back => own.level_pos raised
  leads _ := by
    rw [does, stepsOf_map_step]
    exact own

/-- Steps that keep the level, whatever it is. -/
theorem nests_keeping {steps : List Step} (leads : ∀ level, Leads level level steps) :
    (does steps : Trace ε).Nests level level :=
  nests_does (leads level) (leads (level + 1))

/-- Steps that open a block, on any level. -/
theorem nests_opening {steps : List Step} (leads : ∀ level, Leads level (level + 1) steps) :
    (does steps : Trace ε).Nests level (level + 1) :=
  nests_does (leads level) (leads (level + 1))

/-- Steps that close a block, on any level. -/
theorem nests_closing {steps : List Step} (leads : ∀ level, Leads (level + 1) level steps) :
    (does steps : Trace ε).Nests (level + 1) level :=
  nests_does (leads level) (leads (level + 1))

theorem nests_stops (fault : ε) : (stops fault).Nests before after where
  fit _ _ := trivial
  leads none := nomatch none

theorem Nests.andThen {first second : Trace ε} (front : first.Nests before between)
    (back : second.Nests between after) : (first.andThen second).Nests before after := by
  obtain ⟨events, fault?⟩ := first
  cases fault? with
  | some fault => exact ⟨front.fit, nofun⟩
  | none =>
      have leads : Leads before between (stepsOf events) := front.leads rfl
      constructor
      · intro width text
        refine fit_append.2 ⟨front.fit width text, ?_⟩
        rw [leads.run_eq]
        exact back.fit width _
      · intro ended
        rw [Trace.andThen, stepsOf_append]
        exact leads.append (back.leads ended)

theorem nests_all_nil : (all [] : Trace ε).Nests level level := nests_keeping leads_nil

theorem Nests.all_cons {first : Trace ε} {rest : List (Trace ε)}
    (front : first.Nests before between) (back : (all rest).Nests between after) :
    (all (first :: rest)).Nests before after :=
  front.andThen back

theorem Nests.all_singleton {trace : Trace ε} (only : trace.Nests before after) :
    (all [trace]).Nests before after :=
  only.all_cons nests_all_nil

/-- Writings that keep the level, one after the other. -/
theorem nests_all {traces : List (Trace ε)} (each : ∀ trace ∈ traces, trace.Nests level level) :
    (all traces).Nests level level := by
  induction traces with
  | nil => exact nests_all_nil
  | cons first rest ih =>
      obtain ⟨own, others⟩ := List.forall_mem_cons.1 each
      exact own.all_cons (ih others)

theorem nests_spaced {traces : List (Trace ε)} (each : ∀ trace ∈ traces, trace.Nests level level) :
    (spaced traces).Nests level level := by
  fun_induction spaced traces with
  | case1 => exact nests_all_nil
  | case2 last => exact each last List.mem_cons_self
  | case3 first rest more ih =>
      obtain ⟨own, others⟩ := List.forall_mem_cons.1 each
      exact own.all_cons ((nests_keeping leads_newline).all_cons (ih others).all_singleton)

theorem nests_mark {tier : Tier} {event : Event}
    (marks : event = .begins tier ∨ event = .ends tier) :
    (⟨[event], none⟩ : Trace ε).Nests tier.depth tier.depth := by
  obtain rfl | rfl := marks
  · exact ⟨fun _ _ => ⟨⟨rfl, rfl⟩, trivial⟩, fun _ => leads_nil _⟩
  · exact ⟨fun _ _ => ⟨⟨rfl, rfl⟩, trivial⟩, fun _ => leads_nil _⟩

/-- A part begins and ends at the depth of its tier. -/
theorem Nests.part {tier : Tier} {trace : Trace ε} (inside : trace.Nests tier.depth tier.depth) :
    (trace.part tier).Nests tier.depth tier.depth :=
  (nests_mark (.inl rfl)).all_cons (inside.all_cons (nests_mark (.inr rfl)).all_singleton)

/-- Steps that keep the level, whatever it is, make a part of any tier. -/
theorem nests_part {tier : Tier} {steps : List Step} (leads : ∀ level, Leads level level steps) :
    (part tier (does steps) : Trace ε).Nests tier.depth tier.depth :=
  (nests_keeping leads).part

/-- Parts of one tier, one after the other. -/
theorem nests_parts {α : Type} (tier : Tier) {spell : α → List Step}
    (leads : ∀ item level, Leads level level (spell item)) (items : List α) :
    (all (items.map fun item => part tier (does (spell item))) : Trace ε).Nests
      tier.depth tier.depth :=
  nests_all (List.forall_mem_map.2 fun item _ => nests_part (leads item))

end Trace

end ModelExport.Layout
