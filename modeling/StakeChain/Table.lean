/-
# Keyed tables

Validators and stakes are kept by name.  A table is its entries in strictly increasing order of
their keys, so it has at most one entry a key, two tables with the same look-ups are equal
(`Table.ext_get?`), and a listing is in order without sorting.  Keys are compared character by
character, which is also the order of their UTF-8 bytes.

Each operation is described by what it does to look-ups: `get?_insert`, `get?_erase`.
-/

namespace StakeChain

/-- Entries in strictly increasing order of their keys. -/
structure Table (α : Type) where
  entries : List (String × α)
  sorted : entries.Pairwise (fun a b => a.1 < b.1)

namespace Table

variable {α : Type}

/-! ## Operations -/

/-- The table without entries. -/
def empty : Table α := ⟨[], .nil⟩

instance : Inhabited (Table α) := ⟨empty⟩

/-- The value under a key. -/
def get? (t : Table α) (key : String) : Option α :=
  (t.entries.find? fun e => e.1 = key).map (·.2)

/-- The values in the order of their keys. -/
def values (t : Table α) : List α := t.entries.map (·.2)

/-- The number of entries. -/
def size (t : Table α) : Nat := t.entries.length

/-- The entries with `key` bound to `value`, in order. -/
def insertEntry (key : String) (value : α) : List (String × α) → List (String × α)
  | [] => [(key, value)]
  | e :: rest =>
    if key < e.1 then (key, value) :: e :: rest
    else if key = e.1 then (key, value) :: rest
    else e :: insertEntry key value rest

theorem mem_insertEntry {key : String} {value : α} {e : String × α} {l : List (String × α)}
    (h : e ∈ insertEntry key value l) : e = (key, value) ∨ e ∈ l := by
  induction l with
  | nil => simpa [insertEntry] using h
  | cons d rest ih =>
    unfold insertEntry at h
    split at h
    · simpa using h
    · split at h
      · rcases List.mem_cons.mp h with h | h
        · exact .inl h
        · exact .inr (List.mem_cons_of_mem _ h)
      · rcases List.mem_cons.mp h with rfl | h
        · exact .inr List.mem_cons_self
        · exact (ih h).imp id (List.mem_cons_of_mem _)

theorem sorted_insertEntry {key : String} {value : α} {l : List (String × α)}
    (h : l.Pairwise (fun a b => a.1 < b.1)) :
    (insertEntry key value l).Pairwise (fun a b => a.1 < b.1) := by
  induction l with
  | nil => exact .cons (by simp) .nil
  | cons d rest ih =>
    obtain ⟨hd, hrest⟩ := List.pairwise_cons.mp h
    unfold insertEntry
    split
    · rename_i hlt
      refine .cons (fun e he => ?_) h
      rcases List.mem_cons.mp he with rfl | he
      · exact hlt
      · exact String.lt_trans hlt (hd e he)
    · split
      · rename_i heq
        exact .cons (fun e he => heq ▸ hd e he) hrest
      · rename_i hnlt hne
        refine .cons (fun e he => ?_) (ih hrest)
        rcases mem_insertEntry he with rfl | he
        · exact Std.lt_of_le_of_ne (String.not_lt.mp hnlt) (Ne.symm hne)
        · exact hd e he

/-- The table with `key` bound to `value`. -/
def insert (t : Table α) (key : String) (value : α) : Table α :=
  ⟨insertEntry key value t.entries, sorted_insertEntry t.sorted⟩

/-- The table with nothing bound to `key`. -/
def erase (t : Table α) (key : String) : Table α :=
  ⟨t.entries.filter fun e => e.1 ≠ key, t.sorted.filter _⟩

/-! ## Look-ups -/

@[simp] theorem get?_empty (key : String) : (empty : Table α).get? key = none := rfl

theorem find?_insertEntry (key k : String) (value : α) {l : List (String × α)} :
    ((insertEntry key value l).find? fun e => e.1 = k).map (·.2) =
      if k = key then some value else (l.find? fun e => e.1 = k).map (·.2) := by
  induction l with
  | nil => by_cases h : key = k <;> simp [insertEntry, h, eq_comm]
  | cons d rest ih =>
    unfold insertEntry
    split
    · by_cases h : key = k
      · simp [h]
      · simp [List.find?_cons, h, Ne.symm h]
    · split
      · rename_i heq
        by_cases h : key = k
        · simp [h]
        · have hd : d.1 ≠ k := heq ▸ h
          simp [h, Ne.symm h, hd]
      · rename_i hne
        by_cases hd : d.1 = k
        · have : k ≠ key := fun e => hne (e ▸ hd.symm)
          simp [hd, this]
        · simp [hd, ih]

theorem get?_insert (t : Table α) (key k : String) (value : α) :
    (t.insert key value).get? k = if k = key then some value else t.get? k :=
  find?_insertEntry key k value

theorem get?_erase (t : Table α) (key k : String) :
    (t.erase key).get? k = if k = key then none else t.get? k := by
  unfold erase get?
  simp only [List.find?_filter]
  by_cases h : k = key
  · subst h
    simp
  · rw [if_neg h]
    congr 2
    funext e
    by_cases he : e.1 = k
    · simp [he, h]
    · simp [he]

/-- What is bound to a key is the one entry with that key. -/
theorem get?_eq_some_iff {t : Table α} {key : String} {value : α} :
    t.get? key = some value ↔ (key, value) ∈ t.entries := by
  unfold get?
  constructor
  · intro h
    obtain ⟨e, he, rfl⟩ := Option.map_eq_some_iff.mp h
    have hkey : e.1 = key := by simpa using List.find?_some he
    subst hkey
    exact List.mem_of_find?_eq_some he
  · obtain ⟨entries, sorted⟩ := t
    induction entries with
    | nil => simp
    | cons e rest ih =>
      obtain ⟨hfirst, hrest⟩ := List.pairwise_cons.mp sorted
      intro h
      rcases List.mem_cons.mp h with rfl | h
      · simp
      · have hne : e.1 ≠ key := fun heq => String.lt_irrefl key (by simpa [heq] using hfirst _ h)
        simpa [hne] using ih hrest h

/-- The listing holds what is bound to some key. -/
theorem mem_values_iff {t : Table α} {value : α} :
    value ∈ t.values ↔ ∃ key, t.get? key = some value := by
  simp [values, get?_eq_some_iff]

/-- Where each value names the key that it stands under, the listing is in strict order of the
names. -/
theorem pairwise_values {t : Table α} {name : α → String}
    (h : ∀ {key : String} {value : α}, t.get? key = some value → name value = key) :
    t.values.Pairwise (fun a b => name a < name b) := by
  rw [values, List.pairwise_map]
  refine t.sorted.imp_of_mem fun {a b} ha hb hlt => ?_
  have hname : name a.2 = a.1 := h (get?_eq_some_iff.mpr ha)
  have hname' : name b.2 = b.1 := h (get?_eq_some_iff.mpr hb)
  rwa [hname, hname']

/-! ## Look-ups determine a table -/

theorem find?_eq_none_of_lt {k : String} {l : List (String × α)} (h : ∀ e ∈ l, k < e.1) :
    (l.find? fun e => e.1 = k) = none := by
  rw [List.find?_eq_none]
  intro e he hk
  exact String.lt_irrefl k (by simpa [of_decide_eq_true hk] using h e he)

theorem eq_of_find?_eq : ∀ {l m : List (String × α)}, l.Pairwise (fun a b => a.1 < b.1) →
    m.Pairwise (fun a b => a.1 < b.1) →
    (∀ k, (l.find? fun e => e.1 = k).map (·.2) = (m.find? fun e => e.1 = k).map (·.2)) → l = m
  | [], [], _, _, _ => rfl
  | [], f :: _, _, _, h => by simpa using h f.1
  | e :: _, [], _, _, h => by simpa using h e.1
  | e :: l, f :: m, hl, hm, h => by
    obtain ⟨he, hl⟩ := List.pairwise_cons.mp hl
    obtain ⟨hf, hm⟩ := List.pairwise_cons.mp hm
    have hkey : e.1 = f.1 := by
      rcases Std.lt_trichotomy e.1 f.1 with hlt | heq | hlt
      · have hnone := find?_eq_none_of_lt (k := e.1) (l := f :: m) (by
          intro d hd
          rcases List.mem_cons.mp hd with rfl | hd
          · exact hlt
          · exact String.lt_trans hlt (hf d hd))
        have := h e.1
        rw [hnone] at this
        simp at this
      · exact heq
      · have hnone := find?_eq_none_of_lt (k := f.1) (l := e :: l) (by
          intro d hd
          rcases List.mem_cons.mp hd with rfl | hd
          · exact hlt
          · exact String.lt_trans hlt (he d hd))
        have := h f.1
        rw [hnone] at this
        simp at this
    have hvalue : e.2 = f.2 := by simpa [hkey] using h e.1
    have htail : l = m := by
      refine eq_of_find?_eq hl hm fun k => ?_
      by_cases hk : e.1 = k
      · rw [find?_eq_none_of_lt (fun d hd => hk ▸ he d hd),
          find?_eq_none_of_lt (fun d hd => hk ▸ hkey ▸ hf d hd)]
      · have hk' : f.1 ≠ k := hkey ▸ hk
        simpa [hk, hk'] using h k
    rw [htail, Prod.ext hkey hvalue]

/-- **Two tables with the same look-ups are equal**: the order of the entries is fixed. -/
theorem ext_get? {t u : Table α} (h : ∀ key, t.get? key = u.get? key) : t = u := by
  cases t
  cases u
  rw [Table.mk.injEq]
  exact eq_of_find?_eq (by assumption) (by assumption) h

end Table

end StakeChain
