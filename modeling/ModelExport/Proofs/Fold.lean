/-
# ModelExport.Proofs.Fold — folds that may stop at a fault

A loop that carries a state from item to item and may stop at a fault is a fold
in `Except`. When each step first asks something of the item, which may fail, and
then only carries the answer into the state, the asking can be done for all items
beforehand (`foldlM_eq_mapM`): the first fault is the same, and without one the
state is what carrying in all answers makes of it. Items that a step passes over
can be left out (`foldlM_eq_mapM_filter`). What stops a traversal is the first of
all faults among its items (`fault?_mapM`).
-/

set_option autoImplicit false

namespace ModelExport

variable {α β σ ε : Type}

@[simp] theorem ok_bind (a : α) (f : α → Except ε β) : (Except.ok a >>= f) = f a := rfl

@[simp] theorem error_bind (fault : ε) (f : α → Except ε β) :
    ((Except.error fault : Except ε α) >>= f) = .error fault := rfl

@[simp] theorem map_ok (f : α → β) (a : α) : (Except.ok a : Except ε α).map f = .ok (f a) := rfl

@[simp] theorem map_error (f : α → β) (fault : ε) :
    (Except.error fault : Except ε α).map f = .error fault := rfl

@[simp] theorem mapError_ok {δ : Type} (f : ε → δ) (a : α) :
    (Except.ok a : Except ε α).mapError f = .ok a := rfl

@[simp] theorem mapError_error {δ : Type} (f : ε → δ) (fault : ε) :
    (Except.error fault : Except ε α).mapError f = .error (f fault) := rfl

@[simp] theorem pure_eq_ok (a : α) : (pure a : Except ε α) = .ok a := rfl

theorem map_eq_ok {f : α → β} {made : Except ε α} {b : β} :
    made.map f = .ok b ↔ ∃ a, made = .ok a ∧ f a = b := by
  cases made <;> simp

theorem bind_eq_ok {f : α → Except ε β} {made : Except ε α} {b : β} :
    (made >>= f) = .ok b ↔ ∃ a, made = .ok a ∧ f a = .ok b := by
  cases made <;> simp

theorem toOption_eq_some {made : Except ε α} {a : α} : made.toOption = some a ↔ made = .ok a := by
  cases made <;> simp [Except.toOption]

theorem map_map {γ : Type} (f : α → β) (g : β → γ) (made : Except ε α) :
    (made.map f).map g = made.map (g ∘ f) := by
  cases made <;> rfl

/-! ## The first fault -/

/-- The fault of a question that has no answer. -/
def fault? : Except ε α → Option ε
  | .ok _ => none
  | .error fault => some fault

theorem fault?_eq_some {made : Except ε α} {fault : ε} :
    fault? made = some fault ↔ made = .error fault := by
  cases made <;> simp [fault?]

theorem fault?_eq_none {made : Except ε α} : fault? made = none ↔ ∃ a, made = .ok a := by
  cases made <;> simp [fault?]

theorem fault?_map (f : α → β) (made : Except ε α) : fault? (made.map f) = fault? made := by
  cases made <;> rfl

/-- **The fault of all questions of a list is the first among the faults of each.** -/
theorem fault?_mapM {ask : α → Except ε β} {faults : α → List ε} {items : List α}
    (each : ∀ item ∈ items, fault? (ask item) = (faults item).head?) :
    fault? (items.mapM ask) = (items.flatMap faults).head? := by
  induction items with
  | nil => rfl
  | cons item rest ih =>
      have later := ih fun other member => each other (List.mem_cons_of_mem _ member)
      rw [List.mapM_cons, List.flatMap_cons, List.head?_append, ← each item List.mem_cons_self,
        ← later]
      cases ask item with
      | error fault => rfl
      | ok answer => cases rest.mapM ask <;> rfl

/-! ## Questions about a list -/

/-- The answers belong to the questions one by one. -/
theorem map_of_mapM {γ : Type} {ask : α → Except ε β} {read : β → γ} {direct : α → γ}
    (agree : ∀ item answer, ask item = .ok answer → direct item = read answer) :
    ∀ {items : List α} {answers : List β}, items.mapM ask = .ok answers →
      items.map direct = answers.map read := by
  intro items
  induction items with
  | nil =>
      intro answers asked
      simp only [List.mapM_nil, pure_eq_ok, Except.ok.injEq] at asked
      simp [← asked]
  | cons item rest ih =>
      intro answers asked
      simp only [List.mapM_cons, bind_eq_ok, pure_eq_ok, Except.ok.injEq] at asked
      obtain ⟨answer, first, others, all, rfl⟩ := asked
      simp only [List.map_cons, agree item answer first, ih all]

/-- If all questions of a list have answers, the answer of each is among them. -/
theorem exists_mem_of_mapM {ask : α → Except ε β} {items : List α} {answers : List β}
    (asked : items.mapM ask = .ok answers) {item : α} (member : item ∈ items) :
    ∃ answer ∈ answers, ask item = .ok answer := by
  induction items generalizing answers with
  | nil => exact absurd member List.not_mem_nil
  | cons first rest ih =>
      simp only [List.mapM_cons, bind_eq_ok, pure_eq_ok, Except.ok.injEq] at asked
      obtain ⟨answer, found, others, all, rfl⟩ := asked
      rcases List.mem_cons.1 member with rfl | later
      · exact ⟨answer, List.mem_cons_self, found⟩
      · obtain ⟨own, inside, answered⟩ := ih all later
        exact ⟨own, List.mem_cons_of_mem _ inside, answered⟩

/-- If all questions of a list have answers, so has every one of them. -/
theorem exists_of_mapM {ask : α → Except ε β} {items : List α} {answers : List β}
    (asked : items.mapM ask = .ok answers) {item : α} (member : item ∈ items) :
    ∃ answer, ask item = .ok answer := by
  obtain ⟨answer, -, answered⟩ := exists_mem_of_mapM asked member
  exact ⟨answer, answered⟩

/-- Every answer answers a question of the list. -/
theorem exists_of_mem_mapM {ask : α → Except ε β} {items : List α} {answers : List β}
    (asked : items.mapM ask = .ok answers) {answer : β} (member : answer ∈ answers) :
    ∃ item ∈ items, ask item = .ok answer := by
  induction items generalizing answers with
  | nil =>
      simp only [List.mapM_nil, pure_eq_ok, Except.ok.injEq] at asked
      exact absurd (asked ▸ member) List.not_mem_nil
  | cons item rest ih =>
      simp only [List.mapM_cons, bind_eq_ok, pure_eq_ok, Except.ok.injEq] at asked
      obtain ⟨first, found, others, all, rfl⟩ := asked
      rcases List.mem_cons.1 member with rfl | later
      · exact ⟨item, List.mem_cons_self, found⟩
      · obtain ⟨source, inside, answered⟩ := ih all later
        exact ⟨source, List.mem_cons_of_mem _ inside, answered⟩

/-- Questions about items that were carried elsewhere, where each has the answer it had. -/
theorem mapM_map_eq {γ : Type} {ask : β → Except ε γ} {direct : α → Except ε γ} {carry : α → β}
    {items : List α} (same : ∀ item ∈ items, ask (carry item) = direct item) :
    (items.map carry).mapM ask = items.mapM direct := by
  induction items with
  | nil => rfl
  | cons item rest ih =>
      have first := same item List.mem_cons_self
      have others := ih fun other member => same other (List.mem_cons_of_mem _ member)
      rw [List.map_cons, List.mapM_cons, List.mapM_cons, first, others]

/-- Questions about items with keys, where every answer is read off the key. -/
theorem mapM_of_keys {κ : Type} {ask : α → Except ε β} {key : α → Option κ} {read : κ → β}
    {items : List α} {keys : List κ} (known : items.map key = keys.map some)
    (each : ∀ item ∈ items, ∀ k ∈ keys, key item = some k → ask item = .ok (read k)) :
    items.mapM ask = .ok (keys.map read) := by
  induction items generalizing keys with
  | nil =>
      rw [List.map_eq_nil_iff.1 known.symm]
      rfl
  | cons item rest ih =>
      cases keys with
      | nil => cases known
      | cons k later =>
          obtain ⟨first, others⟩ := List.cons.inj known
          have asked := each item List.mem_cons_self k List.mem_cons_self first
          have all := ih others fun other inside k' among =>
            each other (List.mem_cons_of_mem _ inside) k' (List.mem_cons_of_mem _ among)
          rw [List.mapM_cons, asked, ok_bind, all]
          rfl

/-- Questions that all have answers. -/
theorem mapM_of_map {ask : α → Except ε β} {items : List α} {answers : List β}
    (answered : items.map ask = answers.map .ok) : items.mapM ask = .ok answers := by
  have kept : (answers.map Except.ok).mapM id = (.ok answers : Except ε (List β)) := by
    rw [List.mapM_map]
    exact List.mapM_pure.trans (congrArg _ (List.map_id _))
  rw [← kept, ← answered, List.mapM_map]
  rfl

/-- Questions that are other questions with their answers read. -/
theorem mapM_eq_map {γ : Type} {ask : α → Except ε β} {direct : α → Except ε γ} {read : β → γ}
    {items : List α} (same : ∀ item ∈ items, direct item = (ask item).map read) :
    items.mapM direct = (items.mapM ask).map (List.map read) := by
  induction items with
  | nil => rfl
  | cons item rest ih =>
      have others := ih fun other member => same other (List.mem_cons_of_mem _ member)
      rw [List.mapM_cons, List.mapM_cons, same item List.mem_cons_self, others]
      cases ask item with
      | error fault => rfl
      | ok answer => cases rest.mapM ask <;> rfl

theorem foldlM_eq_mapM_filter {step : σ → α → Except ε σ} {ask : α → Except ε β}
    {carry : σ → β → σ} {takes : α → Bool}
    (each : ∀ state item,
      step state item = if takes item then (ask item).map (carry state) else .ok state)
    (items : List α) (state : σ) :
    items.foldlM step state =
      ((items.filter takes).mapM ask).map fun answers => answers.foldl carry state := by
  induction items generalizing state with
  | nil => rfl
  | cons item rest ih =>
      rw [List.foldlM_cons, each]
      by_cases taken : takes item = true
      · rw [if_pos taken, List.filter_cons_of_pos taken, List.mapM_cons]
        cases asked : ask item with
        | error fault => rfl
        | ok answer =>
            simp only [map_ok, ok_bind, ih]
            cases (rest.filter takes).mapM ask <;> rfl
      · rw [if_neg taken, List.filter_cons_of_neg taken, ok_bind, ih]

theorem foldlM_eq_mapM {step : σ → α → Except ε σ} {ask : α → Except ε β} {carry : σ → β → σ}
    (each : ∀ state item, step state item = (ask item).map (carry state))
    (items : List α) (state : σ) :
    items.foldlM step state = (items.mapM ask).map fun answers => answers.foldl carry state := by
  have taken : ∀ state item, step state item =
      if (fun _ : α => true) item then (ask item).map (carry state) else .ok state :=
    fun state item => each state item
  have all := foldlM_eq_mapM_filter taken items state
  rwa [List.filter_eq_self.mpr fun _ _ => rfl] at all

end ModelExport
