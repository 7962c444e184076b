import Mathlib.Data.List.Forall2

namespace SwiftConnections

variable {ε α β : Type}

theorem bind_eq_ok_iff {x : Except ε α} {f : α → Except ε β} {b : β} :
    x >>= f = .ok b ↔ ∃ a, x = .ok a ∧ f a = .ok b := by
  cases x with
  | error e => exact ⟨fun h => (nomatch h), fun ⟨_, h, _⟩ => (nomatch h)⟩
  | ok a => exact ⟨fun h => ⟨a, rfl, h⟩, fun ⟨_, ha, h⟩ => by cases ha; exact h⟩

theorem bind_pure_eq_ok_iff {x : Except ε α} {f : α → β} {b : β} :
    (x >>= fun a => pure (f a)) = .ok b ↔ ∃ a, x = .ok a ∧ f a = b := by
  rw [bind_eq_ok_iff]
  exact exists_congr fun a => and_congr_right fun _ => ⟨Except.ok.inj, congrArg Except.ok⟩

theorem mapError_ok {ε' : Type} (f : ε → ε') (a : α) : (Except.ok a).mapError f = .ok a :=
  rfl

theorem mapError_error {ε' : Type} (f : ε → ε') (e : ε) :
    (Except.error e : Except ε α).mapError f = .error (f e) :=
  rfl

/-- A list of steps succeeds if every step does, each with the result at its position. -/
theorem mapM_eq_ok_iff {f : α → Except ε β} {inputs : List α} {results : List β} :
    inputs.mapM f = .ok results ↔ List.Forall₂ (fun a b => f a = .ok b) inputs results := by
  induction inputs generalizing results with
  | nil =>
    rw [List.mapM_nil, List.forall₂_nil_left_iff]
    exact ⟨fun h => (Except.ok.inj h).symm, fun h => congrArg Except.ok h.symm⟩
  | cons a inputs ih =>
    rw [List.mapM_cons, bind_eq_ok_iff]
    constructor
    · rintro ⟨b, hb, h⟩
      obtain ⟨bs, hbs, h⟩ := bind_eq_ok_iff.mp h
      cases h
      exact .cons hb (ih.mp hbs)
    · intro h
      obtain ⟨b, bs, hb, hbs, rfl⟩ := List.forall₂_cons_left_iff.mp h
      exact ⟨b, hb, bind_eq_ok_iff.mpr ⟨bs, ih.mpr hbs, rfl⟩⟩

/-- The positions make no difference to the results of steps that succeed. -/
theorem mapM_zipIdx_eq_ok_iff {f : α × Nat → Except ε β} {R : α → β → Prop} (h : ∀ a i b, f (a, i) = .ok b ↔ R a b)
    {inputs : List α} {results : List β} : inputs.zipIdx.mapM f = .ok results ↔ List.Forall₂ R inputs results := by
  conv => rhs; rw [← List.zipIdx_map_fst 0 inputs, List.forall₂_map_left_iff]
  rw [mapM_eq_ok_iff]
  exact ⟨.imp fun (a, i) b => (h a i b).mp, .imp fun (a, i) b => (h a i b).mpr⟩

theorem exists_of_mapM {f : α → Except ε β} {inputs : List α} {results : List β} (h : inputs.mapM f = .ok results)
    {a : α} (ha : a ∈ inputs) : ∃ b ∈ results, f a = .ok b := by
  obtain ⟨hlength, hget⟩ := List.forall₂_iff_get.mp (mapM_eq_ok_iff.mp h)
  obtain ⟨i, rfl⟩ := List.mem_iff_get.mp ha
  have hi : i < results.length := hlength ▸ i.isLt
  exact ⟨results.get ⟨i, hi⟩, List.get_mem _ _, hget i i.isLt hi⟩

theorem exists_of_mem_mapM {f : α → Except ε β} {inputs : List α} {results : List β}
    (h : inputs.mapM f = .ok results) {b : β} (hb : b ∈ results) : ∃ a ∈ inputs, f a = .ok b := by
  obtain ⟨hlength, hget⟩ := List.forall₂_iff_get.mp (mapM_eq_ok_iff.mp h)
  obtain ⟨i, rfl⟩ := List.mem_iff_get.mp hb
  have hi : i < inputs.length := hlength.symm ▸ i.isLt
  exact ⟨inputs.get ⟨i, hi⟩, List.get_mem _ _, hget i hi i.isLt⟩

theorem exists_mapM_iff {f : α → Except ε β} {inputs : List α} :
    (∃ results, inputs.mapM f = .ok results) ↔ ∀ a ∈ inputs, ∃ b, f a = .ok b := by
  constructor
  · rintro ⟨results, h⟩ a ha
    obtain ⟨b, -, hb⟩ := exists_of_mapM h ha
    exact ⟨b, hb⟩
  · intro h
    induction inputs with
    | nil => exact ⟨[], List.mapM_nil⟩
    | cons a inputs ih =>
      obtain ⟨⟨b, hb⟩, hrest⟩ := List.forall_mem_cons.mp h
      obtain ⟨results, hresults⟩ := ih hrest
      exact ⟨b :: results, mapM_eq_ok_iff.mpr (.cons hb (mapM_eq_ok_iff.mp hresults))⟩

theorem map_eq_map_of_mapM {γ : Type} {f : α → Except ε β} {inputs : List α} {results : List β} {g : β → γ} {g' : α → γ}
    (h : inputs.mapM f = .ok results) (hf : ∀ a b, f a = .ok b → g b = g' a) : results.map g = inputs.map g' := by
  have hresults := mapM_eq_ok_iff.mp h
  clear h
  induction hresults with
  | nil => rfl
  | cons hb _ ih => rw [List.map_cons, List.map_cons, ih, hf _ _ hb]

theorem map_some_of_mapM {f : α → Except ε β} {inputs : List α} {results : List β}
    (h : inputs.mapM f = .ok results) : results.map some = inputs.map fun a => (f a).toOption :=
  map_eq_map_of_mapM h fun a b hb => by rw [hb, Except.toOption]

/-- Where a test tells which steps fail, the first input that passes it decides. -/
theorem mapM_of_test {f : α → Except ε β} {fails : α → Bool} {error : α → ε} {result : α → β}
    (h : ∀ a, f a = if fails a then .error (error a) else .ok (result a)) (inputs : List α) :
    inputs.mapM f =
      match inputs.find? fails with
      | some a => .error (error a)
      | none => .ok (inputs.map result) := by
  induction inputs with
  | nil => rfl
  | cons a inputs ih =>
    rw [List.mapM_cons, ih, h a]
    cases hfails : fails a with
    | true =>
      rw [List.find?_cons_of_pos hfails]
      rfl
    | false =>
      rw [List.find?_cons_of_neg (by simp [hfails])]
      cases inputs.find? fails <;> rfl

/-- The error of a computation that fails. -/
def failure? : Except ε α → Option ε
  | .error e => some e
  | .ok _ => none

theorem failure?_eq_some_iff {x : Except ε α} {e : ε} : failure? x = some e ↔ x = .error e := by
  cases x <;> simp [failure?]

theorem failure?_eq_none_iff {x : Except ε α} : failure? x = none ↔ ∃ a, x = .ok a := by
  cases x <;> simp [failure?]

/-- Two computations fail with the error of the first one that does, where the second one fails in the same way
whatever it is given. -/
theorem failure?_bind {x : Except ε α} {f : α → Except ε β} {later : Option ε} (h : ∀ a, failure? (f a) = later) :
    failure? (x >>= f) = (failure? x).or later := by
  cases x with
  | error e => rfl
  | ok a => exact h a

theorem failure?_bind_pure (x : Except ε α) (f : α → β) : failure? (x >>= fun a => pure (f a)) = failure? x := by
  cases x <;> rfl

theorem failure?_mapM (f : α → Except ε β) (inputs : List α) :
    failure? (inputs.mapM f) = inputs.findSome? fun a => failure? (f a) := by
  induction inputs with
  | nil => rfl
  | cons a inputs ih =>
    have hrest : ∀ b, failure? (inputs.mapM f >>= fun results => pure (b :: results)) =
        inputs.findSome? fun a => failure? (f a) := fun b => (failure?_bind_pure _ _).trans ih
    rw [List.mapM_cons, failure?_bind hrest, List.findSome?_cons]
    cases failure? (f a) <;> rfl

end SwiftConnections
