import SwiftConnections.Proto.Model

namespace SwiftConnections

theorem lookup_cons_eq {α : Type} (k key : Text) (value : α) (entries : List (Text × α)) :
    ((key, value) :: entries).lookup k = if k = key then some value else entries.lookup k := by
  rw [List.lookup_cons]
  by_cases h : k = key
  · rw [if_pos h, beq_iff_eq.mpr h]
  · rw [if_neg h, beq_eq_false_iff_ne.mpr h]

theorem lookup_insertEntry {α : Type} (key k : Text) (value : α) (entries : List (Text × α)) :
    (insertEntry key value entries).lookup k = if k = key then some value else entries.lookup k := by
  induction entries with
  | nil => exact lookup_cons_eq k key value []
  | cons entry rest ih =>
    obtain ⟨key', value'⟩ := entry
    rw [insertEntry]
    split
    next => rw [lookup_cons_eq]
    next =>
      split
      next heq =>
        have heq : key = key' := heq
        subst heq
        rw [lookup_cons_eq, lookup_cons_eq]
        split <;> rfl
      next hne =>
        have hne : key ≠ key' := hne
        rw [lookup_cons_eq, ih, lookup_cons_eq]
        by_cases hk : k = key
        · rw [if_neg (hk ▸ hne), if_pos hk, if_pos hk]
        · rw [if_neg hk, if_neg hk]

theorem Dictionary.get?_insert {α : Type} (d : Dictionary α) (key k : Text) (value : α) :
    (d.insert key value).get? k = if k = key then some value else d.get? k :=
  lookup_insertEntry key k value d.entries

namespace TypeIndex

/-- Of several messages with one name the last one counts. -/
theorem get?_insertAll (refs : List MessageRef) (index : TypeIndex) (name : Text) :
    (refs.foldl insert index).messages.get? name =
      (refs.reverse.find? (·.qualifiedName = name)).or (index.messages.get? name) := by
  induction refs generalizing index with
  | nil => rfl
  | cons m refs ih =>
    have hfirst : (index.insert m).messages.get? name =
        ([m].find? (·.qualifiedName = name)).or (index.messages.get? name) := by
      rw [insert, Dictionary.get?_insert]
      by_cases h : m.qualifiedName = name
      · simp [h]
      · simp [h, Ne.symm h]
    rw [List.foldl_cons, ih, hfirst, List.reverse_cons, List.find?_append, Option.or_assoc]

theorem get?_insertAll_empty (refs : List MessageRef) (name : Text) :
    (refs.foldl insert .empty).get? ('.' :: name) = refs.reverse.find? (·.qualifiedName = name) := by
  have hempty : TypeIndex.empty.messages.get? name = none := rfl
  have hlookup := get?_insertAll refs .empty name
  rw [hempty, Option.or_none] at hlookup
  exact hlookup

end TypeIndex

/-- A message of a file carries the file's package and prefix, and its path goes on from the messages around it. -/
theorem of_mem_refsOfAll {package : Text} {swiftPrefix : Option Text} {outer : List Text} {decls : List MessageDecl} :
    ∀ m ∈ MessageDecl.refsOfAll package swiftPrefix outer decls,
      m.package = package ∧ m.swiftPrefix = swiftPrefix ∧ ∃ name inner, m.path = outer ++ name :: inner := by
  let Carries (outer : List Text) (refs : List MessageRef) : Prop := ∀ m ∈ refs,
    m.package = package ∧ m.swiftPrefix = swiftPrefix ∧ ∃ name inner, m.path = outer ++ name :: inner
  refine (MessageDecl.refs.mutual_induct (fun outer decl => Carries outer (decl.refs package swiftPrefix outer))
    (fun outer decls => Carries outer (MessageDecl.refsOfAll package swiftPrefix outer decls)) ?_ ?_ ?_).2 outer decls
  · intro outer name nested path ih m hm
    rw [MessageDecl.refs] at hm
    rcases List.mem_append.mp hm with hm | hm
    · obtain ⟨hp, hs, inner, more, hpath⟩ := ih m hm
      exact ⟨hp, hs, name.getD [], inner :: more, by simp [hpath, path]⟩
    · rw [List.mem_singleton.mp hm]
      exact ⟨rfl, rfl, name.getD [], [], rfl⟩
  · exact fun outer m hm => absurd hm List.not_mem_nil
  · intro outer decl decls ih ihs m hm
    rw [MessageDecl.refsOfAll] at hm
    exact (List.mem_append.mp hm).elim (ih m) (ihs m)

namespace Model

/-- The messages that files declare, in the order of the files, nested messages before the one around them. -/
def messagesOf (decls : List FileDecl) : List MessageRef :=
  decls.flatMap fun decl =>
    MessageDecl.refsOfAll (decl.package.getD []) (decl.options.bind (·.swiftPrefix)) [] decl.messages

theorem typesOf_eq (decls : List FileDecl) : typesOf decls = (messagesOf decls).foldl TypeIndex.insert .empty := by
  rw [messagesOf, List.foldl_flatMap]
  rfl

theorem get?_typesOf (decls : List FileDecl) (name : Text) :
    (typesOf decls).get? ('.' :: name) = (messagesOf decls).reverse.find? (·.qualifiedName = name) := by
  rw [typesOf_eq, TypeIndex.get?_insertAll_empty]

theorem mem_messagesOf_of_get? {decls : List FileDecl} {reference : Text} {m : MessageRef}
    (h : (typesOf decls).get? reference = some m) : m ∈ messagesOf decls := by
  obtain ⟨name, hname⟩ : ∃ name, (typesOf decls).get? ('.' :: name) = some m := ⟨_, h⟩
  rw [get?_typesOf] at hname
  exact List.mem_reverse.mp (List.mem_of_find?_eq_some hname)

end Model

end SwiftConnections
