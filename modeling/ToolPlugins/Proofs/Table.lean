import Mathlib
import ToolPlugins.Table

/-!
The keys of a table: those that have a value, each once, in order of first insertion.
-/

namespace ToolPlugins.Table

variable {κ α : Type} [DecidableEq κ] {t : Table κ α} {k other : κ} {v w : α}

theorem get?_eq_none_iff : t.get? k = none ↔ k ∉ t.keys := by
  induction t with
  | nil => simp [keys]
  | cons e rest ih =>
    obtain ⟨k', v'⟩ := e
    by_cases hk : k' = k
    · simp [get?, keys, hk]
    · rw [get?, if_neg hk, ih]
      simp [keys, Ne.symm hk]

theorem mem_keys_iff : k ∈ t.keys ↔ ∃ v, t.get? k = some v := by
  rw [← Option.isSome_iff_exists, ← Option.ne_none_iff_isSome, ne_eq, get?_eq_none_iff, not_not]

theorem mem_of_get? (h : t.get? k = some v) : (k, v) ∈ t := by
  induction t with
  | nil => cases h
  | cons e rest ih =>
    obtain ⟨k', v'⟩ := e
    rw [get?] at h
    split_ifs at h with hk
    · cases h
      rw [hk]
      exact List.mem_cons_self
    · exact List.mem_cons_of_mem _ (ih h)

theorem get?_of_mem (hn : t.keys.Nodup) (h : (k, v) ∈ t) : t.get? k = some v := by
  induction t with
  | nil => cases h
  | cons e rest ih =>
    obtain ⟨k', v'⟩ := e
    obtain ⟨hnot, hrest⟩ := List.nodup_cons.mp hn
    rcases List.mem_cons.mp h with heq | h
    · cases heq
      rw [get?, if_pos rfl]
    · rw [get?, if_neg, ih hrest h]
      exact fun hk => hnot (List.mem_map.mpr ⟨_, h, hk.symm⟩)

theorem keys_insert (t : Table κ α) (k : κ) (v : α) :
    (t.insert k v).keys = if k ∈ t.keys then t.keys else t.keys ++ [k] := by
  induction t with
  | nil => rfl
  | cons e rest ih =>
    obtain ⟨k', v'⟩ := e
    by_cases hk : k' = k
    · subst hk
      simp [insert, keys]
    · have hkeys : keys (insert ((k', v') :: rest) k v) = k' :: keys (insert rest k v) := by
        rw [insert, if_neg hk]
        rfl
      rw [hkeys, ih]
      have hcons : keys ((k', v') :: rest) = k' :: keys rest := rfl
      have hmem : k ∈ k' :: keys rest ↔ k ∈ keys rest := by simp [Ne.symm hk]
      simp only [hcons, hmem]
      split_ifs
      · rfl
      · rfl

theorem keys_sublist_insert (t : Table κ α) (k : κ) (v : α) : t.keys.Sublist (t.insert k v).keys := by
  rw [keys_insert]
  split_ifs
  · exact .refl _
  · exact List.sublist_append_left _ _

theorem mem_keys_insert : other ∈ (t.insert k v).keys ↔ other = k ∨ other ∈ t.keys := by
  rw [keys_insert]
  split_ifs with hk
  · constructor
    · exact .inr
    · rintro (rfl | h)
      · exact hk
      · exact h
  · rw [List.mem_append, List.mem_singleton]
    exact or_comm

theorem nodup_keys_insert (h : t.keys.Nodup) : (t.insert k v).keys.Nodup := by
  rw [keys_insert]
  split_ifs with hk
  · exact h
  · exact List.nodup_append.mpr ⟨h, List.nodup_singleton k, fun a ha b hb hab =>
      hk (List.mem_singleton.mp hb ▸ hab ▸ ha)⟩

theorem insert_ne_nil (t : Table κ α) (k : κ) (v : α) : t.insert k v ≠ [] := by
  cases t with
  | nil => exact List.cons_ne_nil _ _
  | cons e rest =>
    rw [insert]
    split_ifs
    · exact List.cons_ne_nil _ _
    · exact List.cons_ne_nil _ _

theorem keys_erase (t : Table κ α) (k : κ) : (t.erase k).keys = t.keys.filter fun other => !decide (other = k) := by
  rw [keys, keys, erase, List.filter_map]
  rfl

theorem mem_keys_erase : other ∈ (t.erase k).keys ↔ other ≠ k ∧ other ∈ t.keys := by
  rw [keys_erase, List.mem_filter, Bool.not_eq_true', decide_eq_false_iff_not]
  exact and_comm

theorem nodup_keys_erase (h : t.keys.Nodup) : (t.erase k).keys.Nodup := by
  rw [keys_erase]
  exact h.filter _

/-! ### Values that are inserted again -/

theorem insert_insert_self (t : Table κ α) (k : κ) (v w : α) : (t.insert k v).insert k w = t.insert k w := by
  induction t with
  | nil => rw [insert, insert, insert, if_pos rfl]
  | cons e rest ih =>
    obtain ⟨k', v'⟩ := e
    by_cases hk : k' = k
    · rw [insert, insert, if_pos hk, if_pos hk, insert, if_pos rfl]
    · rw [insert, insert, if_neg hk, if_neg hk, insert, if_neg hk, ih]

theorem insert_of_get? (h : t.get? k = some v) : t.insert k v = t := by
  induction t with
  | nil => cases h
  | cons e rest ih =>
    obtain ⟨k', v'⟩ := e
    rw [get?] at h
    rw [insert]
    split_ifs at h ⊢ with hk
    · cases h
      rw [hk]
    · rw [ih h]

/-- A key that is there may be given its value before or after another one. -/
theorem insert_comm (hk : k ∈ t.keys) (hne : k ≠ other) :
    (t.insert other w).insert k v = (t.insert k v).insert other w := by
  induction t with
  | nil => cases hk
  | cons e rest ih =>
    obtain ⟨k', v'⟩ := e
    by_cases hk' : k' = k
    · subst hk'
      have hself : insert ((k', v') :: rest) k' v = (k', v) :: rest := by rw [insert, if_pos rfl]
      rw [hself, insert, insert, if_neg hne, if_neg hne, insert, if_pos rfl]
    · by_cases ho : k' = other
      · subst ho
        have hself : insert ((k', v') :: rest) k' w = (k', w) :: rest := by rw [insert, if_pos rfl]
        rw [hself, insert, insert, if_neg hk', if_neg hk', insert, if_pos rfl]
      · have hrest : k ∈ keys rest := by
          rcases List.mem_cons.mp hk with rfl | h
          · exact absurd rfl hk'
          · exact h
        rw [insert, insert, if_neg ho, if_neg hk', insert, insert, if_neg hk', if_neg ho, ih hrest]

/-- The table with values inserted one after the other. -/
def insertAll (t : Table κ α) (l : List (κ × α)) : Table κ α := l.foldl (fun t e => t.insert e.1 e.2) t

theorem insertAll_append_singleton (t : Table κ α) (l : List (κ × α)) (e : κ × α) :
    t.insertAll (l ++ [e]) = (t.insertAll l).insert e.1 e.2 := List.foldl_append

theorem mem_keys_insertAll {l : List (κ × α)} : k ∈ (t.insertAll l).keys ↔ k ∈ t.keys ∨ k ∈ l.map (·.1) := by
  induction l generalizing t with
  | nil => simp [insertAll]
  | cons e rest ih =>
    have hcons : t.insertAll (e :: rest) = (t.insert e.1 e.2).insertAll rest := rfl
    rw [hcons, ih, mem_keys_insert, List.map_cons, List.mem_cons]
    tauto

/-- A value that is inserted again anyway need not be inserted before. -/
theorem insertAll_insert {l : List (κ × α)} (hk : k ∈ l.map (·.1)) (hl : ∀ e ∈ l, e.1 ∈ t.keys) :
    (t.insert k v).insertAll l = t.insertAll l := by
  induction l generalizing t with
  | nil => cases hk
  | cons e rest ih =>
    change ((t.insert k v).insert e.1 e.2).insertAll rest = (t.insert e.1 e.2).insertAll rest
    by_cases he : k = e.1
    · rw [← he, insert_insert_self]
    · have hrest : k ∈ rest.map (·.1) := by
        rcases List.mem_cons.mp hk with h | h
        · exact absurd h he
        · exact h
      rw [insert_comm (hl e List.mem_cons_self) (Ne.symm he)]
      exact ih hrest fun x hx => mem_keys_insert.mpr (.inr (hl x (List.mem_cons_of_mem e hx)))

/-- A value that no later one replaces may be inserted last. -/
theorem insertAll_insert_comm {l : List (κ × α)} (hk : k ∉ l.map (·.1)) (hl : ∀ e ∈ l, e.1 ∈ t.keys) :
    (t.insert k v).insertAll l = (t.insertAll l).insert k v := by
  induction l generalizing t with
  | nil => rfl
  | cons e rest ih =>
    rw [List.map_cons, List.mem_cons, not_or] at hk
    change ((t.insert k v).insert e.1 e.2).insertAll rest = ((t.insert e.1 e.2).insertAll rest).insert k v
    rw [insert_comm (hl e List.mem_cons_self) (Ne.symm hk.1)]
    exact ih hk.2 fun x hx => mem_keys_insert.mpr (.inr (hl x (List.mem_cons_of_mem e hx)))

/-- Of several values for the only key of a table, the last one stays. -/
theorem insertAll_one_key {l : List (κ × α)} (hl : ∀ e ∈ l, e.1 = k) (v w : α) :
    insertAll [(k, w)] (l ++ [(k, v)]) = [(k, v)] := by
  have hinsert : ∀ x y : α, insert [(k, x)] k y = [(k, y)] := fun x y => by rw [insert, if_pos rfl]
  induction l generalizing w with
  | nil => exact hinsert w v
  | cons e rest ih =>
    obtain ⟨k', x⟩ := e
    obtain rfl : k' = k := hl _ List.mem_cons_self
    rw [List.cons_append, insertAll, List.foldl_cons, hinsert]
    exact ih (fun e he => hl e (List.mem_cons_of_mem _ he)) x

theorem insertAll_again (t : Table κ α) (l : List (κ × α)) : (t.insertAll l).insertAll l = t.insertAll l := by
  induction l using List.reverseRecOn with
  | nil => rfl
  | append_singleton l e ih =>
    have hl : ∀ x ∈ l, x.1 ∈ (t.insertAll l).keys := fun x hx =>
      mem_keys_insertAll.mpr (.inr (List.mem_map_of_mem hx))
    rw [insertAll_append_singleton, insertAll_append_singleton]
    by_cases hk : e.1 ∈ l.map (·.1)
    · rw [insertAll_insert hk hl, ih]
    · rw [insertAll_insert_comm hk hl, ih, insert_insert_self]

/-! ### What stays of values that are inserted -/

theorem eraseDups_append_singleton {β : Type} [BEq β] [LawfulBEq β] (l : List β) (k : β) [Decidable (k ∈ l)] :
    (l ++ [k]).eraseDups = if k ∈ l then l.eraseDups else l.eraseDups ++ [k] := by
  rw [List.eraseDups_append]
  split_ifs with hk
  · simp [List.removeAll, hk]
  · simp [List.removeAll, hk, List.eraseDups_cons]

theorem nodup_eraseDups {β : Type} [BEq β] [LawfulBEq β] (l : List β) : l.eraseDups.Nodup := by
  classical
  induction l using List.reverseRecOn with
  | nil => exact List.nodup_nil
  | append_singleton l k ih =>
    rw [eraseDups_append_singleton]
    split_ifs with hk
    · exact ih
    · exact List.nodup_append.mpr ⟨ih, List.nodup_singleton k, fun a ha b hb hab =>
        hk (List.mem_eraseDups.mp (List.mem_singleton.mp hb ▸ hab ▸ ha))⟩

theorem head?_eraseDups {β : Type} [BEq β] (l : List β) : l.eraseDups.head? = l.head? := by
  cases l with
  | nil => rfl
  | cons k rest =>
    rw [List.eraseDups_cons]
    rfl

theorem perm_eraseDups {β : Type} [BEq β] [LawfulBEq β] {l l' : List β} (h : ∀ k, k ∈ l ↔ k ∈ l') :
    l.eraseDups.Perm l'.eraseDups := by
  refine (List.perm_ext_iff_of_nodup (nodup_eraseDups l) (nodup_eraseDups l')).mpr fun k => ?_
  rw [List.mem_eraseDups, List.mem_eraseDups, h]

/-- The keys stand in the order in which they come first. -/
theorem keys_insertAll_nil (l : List (κ × α)) : (insertAll [] l).keys = (l.map (·.1)).eraseDups := by
  induction l using List.reverseRecOn with
  | nil => rfl
  | append_singleton l e ih =>
    rw [insertAll_append_singleton, keys_insert, ih, List.map_append, List.map_singleton, eraseDups_append_singleton,
      ← ih]
    have hmem : e.1 ∈ (insertAll [] l).keys ↔ e.1 ∈ l.map (·.1) := by
      rw [mem_keys_insertAll]
      simp [keys]
    simp only [hmem]

/-- Of the values of a key, the last one stays. -/
theorem get?_insertAll (t : Table κ α) (l : List (κ × α)) (k : κ) :
    (t.insertAll l).get? k = ((l.filter fun e => e.1 = k).getLast?.map (·.2)).or (t.get? k) := by
  induction l using List.reverseRecOn with
  | nil => rfl
  | append_singleton l e ih =>
    rw [insertAll_append_singleton, get?_insert, List.filter_append, ih]
    split_ifs with hk
    · simp [hk]
    · simp [Ne.symm hk]

/-! ### Tables seen through a function -/

theorem map_insert {β : Type} (f : α → β) (t : Table κ α) (k : κ) (v : α) :
    (t.insert k v).map (Prod.map id f) = insert (t.map (Prod.map id f)) k (f v) := by
  induction t with
  | nil => rfl
  | cons e rest ih =>
    obtain ⟨k', v'⟩ := e
    have hcons : List.map (Prod.map id f) ((k', v') :: rest) = (k', f v') :: rest.map (Prod.map id f) := rfl
    rw [hcons, insert, insert]
    split_ifs
    · rfl
    · rw [List.map_cons, ih]
      rfl

theorem get?_filter (p : κ → Bool) : get? (t.filter fun e => p e.1) k = if p k then t.get? k else none := by
  induction t with
  | nil => simp
  | cons e rest ih =>
    obtain ⟨k', v'⟩ := e
    have hcons : List.filter (fun e => p e.1) ((k', v') :: rest) =
        if p k' then (k', v') :: rest.filter (fun e => p e.1) else rest.filter fun e => p e.1 := List.filter_cons
    by_cases hp : p k' = true
    · rw [hcons, if_pos hp, get?, get?, ih]
      by_cases hk : k' = k
      · subst hk
        rw [if_pos rfl, if_pos hp, if_pos rfl]
      · rw [if_neg hk, if_neg hk]
    · rw [hcons, if_neg hp, ih, get?]
      by_cases hk : k' = k
      · subst hk
        rw [if_neg hp, if_neg hp]
      · rw [if_neg hk]

end ToolPlugins.Table
