import Mathlib.Data.List.Nodup

namespace BoardFirmware

theorem mapM_eq_some {f : α → Option β} {g : α → β} {items : List α}
    (h : ∀ a ∈ items, f a = some (g a)) : items.mapM f = some (items.map g) := by
  induction items
  case nil => rfl
  case cons a rest ih =>
    have ⟨ha, hrest⟩ := List.forall_mem_cons.mp h
    rw [List.mapM_cons, ha, ih hrest]
    rfl

-- An item on which a traversal stops.
theorem mapM_eq_none {f : α → Option β} {items : List α} {a : α} (mem : a ∈ items)
    (ha : f a = none) : items.mapM f = none := by
  induction items
  case nil => cases mem
  case cons first rest ih =>
    rw [List.mapM_cons]
    cases mem
    case head     => rw [ha]; rfl
    case tail mem =>
      rw [ih mem]
      cases f first <;> rfl

-- Where keys occur once, an item is the only one with its key.
theorem filter_key_eq [DecidableEq β] {key : α → β} {items : List α} {a : α}
    (once : (items.map key).Nodup) (mem : a ∈ items) :
    items.filter (key · = key a) = [a] := by
  induction items
  case nil => cases mem
  case cons a' rest ih =>
    have ⟨new, once⟩ := List.nodup_cons.mp once
    cases mem
    case head =>
      rw [List.filter_cons_of_pos (by simp)]
      refine congrArg (a :: ·) (List.filter_eq_nil_iff.mpr fun a' mem => ?_)
      have hne : key a' ≠ key a := fun heq => new (heq ▸ List.mem_map_of_mem mem)
      simpa using hne
    case tail mem =>
      have hne : key a' ≠ key a := fun heq => new (heq ▸ List.mem_map_of_mem mem)
      rw [List.filter_cons_of_neg (by simpa using hne), ih once mem]

-- Where keys occur once, the first item with a key is the only one.
theorem find?_key_eq [DecidableEq β] {key : α → β} {items : List α} {a : α}
    (once : (items.map key).Nodup) (mem : a ∈ items) :
    items.find? (key · = key a) = some a := by
  rw [← List.head?_filter, filter_key_eq once mem]
  rfl

end BoardFirmware
