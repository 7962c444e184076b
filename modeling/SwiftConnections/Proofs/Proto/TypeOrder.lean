import SwiftConnections.Proofs.Proto.TypeLookup

namespace SwiftConnections

theorem Text.precedes_irrefl (t : Text) : t.precedes t = false := by
  induction t with
  | nil => rfl
  | cons c t ih => simp [precedes, ih]

section Entries

variable {α : Type} {entries entries' : List (Text × α)}

theorem insertEntry_perm {key : Text} {value : α} (h : ∀ e ∈ entries, key ≠ e.1) :
    (insertEntry key value entries).Perm ((key, value) :: entries) := by
  induction entries with
  | nil => exact .refl _
  | cons entry rest ih =>
    obtain ⟨hne, hrest⟩ := List.forall_mem_cons.mp h
    rw [insertEntry]
    split
    next => exact .refl _
    next => exact ((ih hrest).cons entry).trans (.swap _ _ _)

theorem Ascending.eq_of_perm (h : Ascending entries) (h' : Ascending entries') (hp : entries.Perm entries') :
    entries = entries' := by
  refine hp.eq_of_pairwise (fun a b _ _ hab hba => ?_) h h'
  have hself := Text.precedes_trans hab hba
  rw [Text.precedes_irrefl] at hself
  cases hself

theorem Dictionary.eq_of_perm {d d' : Dictionary α} (h : d.entries.Perm d'.entries) : d = d' := by
  obtain ⟨entries, ascending⟩ := d
  obtain ⟨entries', ascending'⟩ := d'
  cases ascending.eq_of_perm ascending' h
  rfl

end Entries

/-- An index has the messages of different names as its entries, whatever the order in which they came. -/
theorem TypeIndex.entries_insertAll {refs : List MessageRef} {index : TypeIndex}
    (h : (refs.map (·.qualifiedName)).Nodup)
    (hnew : ∀ m ∈ refs, ∀ e ∈ index.messages.entries, m.qualifiedName ≠ e.1) :
    (refs.foldl insert index).messages.entries.Perm
      (refs.map (fun m => (m.qualifiedName, m)) ++ index.messages.entries) := by
  induction refs generalizing index with
  | nil => exact .refl _
  | cons m refs ih =>
    obtain ⟨hm, hrefs⟩ := List.nodup_cons.mp h
    obtain ⟨hfirst, hothers⟩ := List.forall_mem_cons.mp hnew
    have hentries : (index.insert m).messages.entries.Perm ((m.qualifiedName, m) :: index.messages.entries) :=
      insertEntry_perm hfirst
    have hrest : ∀ m' ∈ refs, ∀ e ∈ (index.insert m).messages.entries, m'.qualifiedName ≠ e.1 := by
      intro m' hm' e he
      rcases List.mem_cons.mp (hentries.mem_iff.mp he) with rfl | he
      · exact fun heq => hm (List.mem_map.mpr ⟨m', hm', heq⟩)
      · exact hothers m' hm' e he
    rw [List.foldl_cons, List.map_cons, List.cons_append]
    exact ((ih hrefs hrest).trans (hentries.append_left _)).trans List.perm_middle

namespace Model

theorem messagesOf_perm {decls decls' : List FileDecl} (h : decls.Perm decls') :
    (messagesOf decls).Perm (messagesOf decls') :=
  h.flatMap_right _

/-- Files that declare messages of different names have one index in any order. -/
theorem typesOf_perm {decls decls' : List FileDecl} (h : decls.Perm decls')
    (hnames : ((messagesOf decls).map (·.qualifiedName)).Nodup) : typesOf decls' = typesOf decls := by
  have hmessages := messagesOf_perm h
  have hnames' : ((messagesOf decls').map (·.qualifiedName)).Nodup :=
    (hmessages.map (·.qualifiedName)).nodup_iff.mp hnames
  have hnew : ∀ refs : List MessageRef, ∀ m ∈ refs, ∀ e ∈ TypeIndex.empty.messages.entries, m.qualifiedName ≠ e.1 :=
    fun _ _ _ _ he => absurd he List.not_mem_nil
  have hentries := TypeIndex.entries_insertAll hnames (hnew _)
  have hentries' := TypeIndex.entries_insertAll hnames' (hnew _)
  have hsame := hentries'.trans (((hmessages.map _).symm.append_right _).trans hentries.symm)
  rw [typesOf_eq, typesOf_eq]
  exact congrArg TypeIndex.mk (Dictionary.eq_of_perm hsame)

end Model

end SwiftConnections
