/-
**Lookups in a table kept as an association list.**

Mathlib's `AList` gives the lookups after `insert` and `erase`. A table that is also updated in
place (`replace`) and cut down by a filter of its entries needs two more facts.

* `lookup_replace_self`, `lookup_replace_ne`: what `replace` does to lookups;
* `lookup_of_subset`: a table whose entries are among another's finds only what the other finds.
-/

import Mathlib

namespace Table

variable {α β : Type} [DecidableEq α]

theorem dlookup_kreplace_self {a : α} {b : β} :
    ∀ {l : List (Sigma fun _ : α => β)}, a ∈ l.keys → (l.kreplace a b).dlookup a = some b
  | ⟨c, v⟩ :: l, mem => by
    by_cases same : a = c
    · subst same
      rw [List.kreplace, List.lookmap_cons_some _ l (b := (⟨a, b⟩ : Sigma fun _ : α => β)) (by simp)]
      exact List.dlookup_cons_eq _ _ _
    · rw [List.kreplace, List.lookmap_cons_none _ _ (by simp [same]),
        List.dlookup_cons_ne _ _ same]
      exact dlookup_kreplace_self (by simpa [same] using mem)

theorem dlookup_kreplace_ne {a a' : α} {b : β} (other : a' ≠ a) :
    ∀ l : List (Sigma fun _ : α => β), (l.kreplace a b).dlookup a' = l.dlookup a'
  | [] => rfl
  | ⟨c, v⟩ :: l => by
    by_cases same : a = c
    · subst same
      rw [List.kreplace, List.lookmap_cons_some _ l (b := (⟨a, b⟩ : Sigma fun _ : α => β)) (by simp),
        List.dlookup_cons_ne _ _ other, List.dlookup_cons_ne _ _ other]
    · rw [List.kreplace, List.lookmap_cons_none _ _ (by simp [same])]
      by_cases found : a' = c
      · subst found
        rw [List.dlookup_cons_eq, List.dlookup_cons_eq]
      · rw [List.dlookup_cons_ne _ _ found, List.dlookup_cons_ne _ _ found]
        exact dlookup_kreplace_ne other l

theorem lookup_replace_self {s : AList fun _ : α => β} {a : α} (mem : a ∈ s) (b : β) :
    (s.replace a b).lookup a = some b :=
  dlookup_kreplace_self mem

theorem lookup_replace_ne {s : AList fun _ : α => β} {a a' : α} (other : a' ≠ a) (b : β) :
    (s.replace a b).lookup a' = s.lookup a' :=
  dlookup_kreplace_ne other s.entries

/-- A table whose entries are among another's finds only what the other finds. -/
theorem lookup_of_subset {s s' : AList fun _ : α => β} (subset : s'.entries ⊆ s.entries)
    {a : α} {b : β} (found : s'.lookup a = some b) : s.lookup a = some b := by
  rw [← Option.mem_def, AList.mem_lookup_iff] at found ⊢
  exact subset found

end Table
