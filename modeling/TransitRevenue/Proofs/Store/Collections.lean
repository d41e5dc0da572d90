import Mathlib
import TransitRevenue.Store.Document
import TransitRevenue.Store.Memory
/-!
The collections of a document database, and the documents they keep.

Setting a collection replaces its documents and leaves the others as they were
(`Database.docs_setDocs`, `Database.docs_setDocs_of_ne`). Replacing by a filter is, on the
collection, `replaceOrAppend` of the document in stored form under some identifier
(`Database.docs_replaceOrInsert`): the kept document reads as the stored one in every field but
its identifier (`Keeps.get?`, `Keeps.withoutId`).

A collection is keyed by a family of filters when every key matches at most one document
(`KeyedBy`). Filing a document that matches its own key and no other keeps the collection keyed
(`KeyedBy.replaceOrAppend`), and the first match of that key is then the document
(`KeyedBy.find?_eq`).
-/

namespace TransitRevenue

/-! ## Replacing in place or appending -/

section ReplaceOrAppend

variable {β : Type} {p q : β → Bool} {x y : β}

@[simp] theorem replaceOrAppend_nil : replaceOrAppend p x [] = [x] := rfl

theorem replaceOrAppend_cons (ys : List β) :
    replaceOrAppend p x (y :: ys) = if p y then x :: ys else y :: replaceOrAppend p x ys := by
  cases hy : p y with
  | true => simp [replaceOrAppend, hy, List.findIdx_cons]
  | false =>
    by_cases hs : ys.any p = true
    · simp [replaceOrAppend, hy, hs, List.findIdx_cons]
    · simp [replaceOrAppend, hy, hs]

theorem mem_replaceOrAppend_self (ys : List β) : x ∈ replaceOrAppend p x ys := by
  induction ys with
  | nil => simp
  | cons z zs ih =>
    rw [replaceOrAppend_cons]
    split <;> simp [ih]

theorem mem_replaceOrAppend {ys : List β} (h : y ∈ replaceOrAppend p x ys) : y = x ∨ y ∈ ys := by
  induction ys with
  | nil => simpa using h
  | cons z zs ih =>
    rw [replaceOrAppend_cons] at h
    split at h
    · rcases List.mem_cons.1 h with rfl | h
      · exact .inl rfl
      · exact .inr (List.mem_cons_of_mem _ h)
    · rcases List.mem_cons.1 h with rfl | h
      · exact .inr List.mem_cons_self
      · exact (ih h).imp_right (List.mem_cons_of_mem _)

/-- A document the filter does not match survives. -/
theorem mem_replaceOrAppend_of {ys : List β} (hy : y ∈ ys) (hp : p y = false) :
    y ∈ replaceOrAppend p x ys := by
  induction ys with
  | nil => simp at hy
  | cons z zs ih =>
    rw [replaceOrAppend_cons]
    rcases List.mem_cons.1 hy with rfl | hy
    · simp [hp]
    · split <;> simp [hy, ih]

theorem countP_replaceOrAppend_le (hx : q x = false) (ys : List β) :
    (replaceOrAppend p x ys).countP q ≤ ys.countP q := by
  induction ys with
  | nil => simp [hx]
  | cons z zs ih =>
    rw [replaceOrAppend_cons]
    split <;> simp only [List.countP_cons, hx, Bool.false_eq_true, if_false] <;> omega

/-- Filing `x` in place of the first match of `p` keeps at most one match of `q`, as long as `x`
matches `q` only when `q` is `p`. -/
theorem countP_replaceOrAppend_le_one {ys : List β} (h : ys.countP q ≤ 1) (hx : q x = true → q = p) :
    (replaceOrAppend p x ys).countP q ≤ 1 := by
  induction ys with
  | nil => simp only [replaceOrAppend_nil, List.countP_cons, List.countP_nil]; split <;> omega
  | cons z zs ih =>
    rw [List.countP_cons] at h
    rw [replaceOrAppend_cons]
    split
    case isTrue hz =>
      -- `x` takes the place of `z`: it adds a match of `q` only if `z` was one
      cases hqx : q x
      · simp only [List.countP_cons, hqx, Bool.false_eq_true, if_false]; split at h <;> omega
      · have hqz : q z = true := by rw [hx hqx]; exact hz
        simp only [List.countP_cons, hqx, hqz, if_true] at h ⊢
        omega
    case isFalse hz =>
      cases hqz : q z
      · simp only [List.countP_cons, hqz, Bool.false_eq_true, if_false, Nat.add_zero]
        exact ih (by simpa [hqz] using h)
      · -- `z` is the one match of `q`, so `x` cannot match it
        have hqx : q x = false := by
          cases hq : q x
          · rfl
          · rw [hx hq] at hqz; exact absurd hqz hz
        have hzs : zs.countP q = 0 := by simp only [hqz, if_true] at h; omega
        have := countP_replaceOrAppend_le (p := p) hqx zs
        simp only [List.countP_cons, hqz, if_true]
        omega

/-- Two members that both match a filter matched at most once are equal. -/
theorem eq_of_countP_le_one {ys : List β} (h : ys.countP q ≤ 1) (hx : x ∈ ys) (hy : y ∈ ys)
    (hqx : q x = true) (hqy : q y = true) : x = y := by
  induction ys with
  | nil => simp at hx
  | cons z zs ih =>
    rw [List.countP_cons] at h
    have only : ∀ a ∈ zs, q a = true → q z = false := fun a ha hqa => by
      have : 0 < zs.countP q := List.countP_pos_iff.2 ⟨a, ha, hqa⟩
      cases hz : q z
      · rfl
      · simp only [hz, if_true] at h; omega
    rcases List.mem_cons.1 hx with rfl | hx'
    · rcases List.mem_cons.1 hy with rfl | hy'
      · rfl
      · simp [only y hy' hqy] at hqx
    · rcases List.mem_cons.1 hy with rfl | hy'
      · simp [only x hx' hqx] at hqy
      · exact ih (by split at h <;> omega) hx' hy'

end ReplaceOrAppend

/-! ## Keyed collections -/

section Keys

variable {β κ : Type} (K : κ → Prop) (key : κ → β → Bool)

/-- Every key of `K` matches at most one document. -/
def KeyedBy (docs : List β) : Prop := ∀ k, K k → docs.countP (key k) ≤ 1

/-- A document that, among the keys of `K`, matches `k` and only `k`. -/
def FiledUnder (k : κ) (x : β) : Prop := K k ∧ key k x = true ∧ ∀ k', K k' → key k' x = true → k' = k

variable {K key} {docs : List β} {k : κ} {x y : β}

theorem KeyedBy.replaceOrAppend (h : KeyedBy K key docs) (hx : FiledUnder K key k x) :
    KeyedBy K key (TransitRevenue.replaceOrAppend (key k) x docs) := by
  intro k' hk'
  apply countP_replaceOrAppend_le_one (h k' hk')
  intro hq
  rw [hx.2.2 k' hk' hq]

theorem KeyedBy.eq_of_key (h : KeyedBy K key docs) (hk : K k) (hx : x ∈ docs) (hy : y ∈ docs)
    (hkx : key k x = true) (hky : key k y = true) : x = y :=
  eq_of_countP_le_one (h k hk) hx hy hkx hky

/-- In a keyed collection, the first match of a document's key is the document. -/
theorem KeyedBy.find?_eq (h : KeyedBy K key docs) (hx : FiledUnder K key k x) (hmem : x ∈ docs) :
    docs.find? (key k) = some x := by
  obtain ⟨y, hy⟩ : ∃ y, docs.find? (key k) = some y := by
    cases hf : docs.find? (key k) with
    | some y => exact ⟨y, rfl⟩
    | none => exact absurd hx.2.1 (by simpa using List.find?_eq_none.1 hf x hmem)
  rw [hy, h.eq_of_key hx.1 (List.mem_of_find?_eq_some hy) hmem (List.find?_some hy) hx.2.1]

/-- In a keyed collection, a document that matches a key comes before no other that does. -/
theorem KeyedBy.pairwise (h : KeyedBy K key docs) :
    docs.Pairwise fun a b => ∀ k, K k → key k a = true → key k b = false := by
  induction docs with
  | nil => exact .nil
  | cons z zs ih =>
    have hzs : KeyedBy K key zs := fun k hk => by
      have := h k hk
      rw [List.countP_cons] at this
      omega
    refine List.pairwise_cons.2 ⟨fun b hb k hk hkz => ?_, ih hzs⟩
    cases hkb : key k b
    · rfl
    · have hpos : 0 < zs.countP (key k) := List.countP_pos_iff.2 ⟨b, hb, hkb⟩
      have := h k hk
      simp only [List.countP_cons, hkz, if_true] at this
      omega

/-- Once `x` is filed under `k`, no other document of the collection matches `k`. -/
theorem KeyedBy.key_eq_false (h : KeyedBy K key docs) (hx : FiledUnder K key k x) (hmem : x ∈ docs)
    (hy : y ∈ docs) (hne : y ≠ x) : key k y = false := by
  cases hky : key k y
  · rfl
  · exact absurd (h.eq_of_key hx.1 hy hmem hky hx.2.1) hne

end Keys

/-! ## Entries of an association list -/

namespace Value

variable {α : Type}

theorem find?_setEntry_self (entries : List (String × α)) (key : String) (v : α) :
    (setEntry entries key v).find? (·.1 == key) = some (key, v) := by
  unfold setEntry
  split
  case isTrue h =>
    induction entries with
    | nil => simp at h
    | cons e es ih =>
      by_cases he : e.1 = key
      · simp [he]
      · have h' : es.any (·.1 == key) = true := by simpa [he] using h
        simpa [he] using ih h'
  case isFalse h =>
    have hn : entries.find? (·.1 == key) = none := by
      rw [List.find?_eq_none]
      intro e he hek
      exact h (List.any_eq_true.2 ⟨e, he, hek⟩)
    simp [List.find?_append, hn]

theorem find?_setEntry_of_ne (entries : List (String × α)) {key key' : String} (v : α)
    (hne : key' ≠ key) :
    (setEntry entries key v).find? (·.1 == key') = entries.find? (·.1 == key') := by
  have hk : (key == key') = false := by simpa using fun h => hne h.symm
  -- replacing the entries of `key` changes no entry of `key'`
  have hmap : ∀ es : List (String × α),
      (es.map fun p => if p.1 == key then (key, v) else p).find? (·.1 == key') = es.find? (·.1 == key') := by
    intro es
    induction es with
    | nil => rfl
    | cons e es ih =>
      obtain ⟨k₀, b⟩ := e
      by_cases he : k₀ = key
      · subst he
        simp only [List.map_cons, List.find?_cons, beq_self_eq_true, if_true, hk, ih]
      · have hb : (k₀ == key) = false := by simpa using he
        simp only [List.map_cons, List.find?_cons, hb, Bool.false_eq_true, if_false, ih]
  unfold setEntry
  split
  · exact hmap entries
  · simp only [List.find?_append]
    cases entries.find? (·.1 == key') <;> simp [hk]

end Value

/-! ## Documents in stored form -/

namespace Value

theorem field?_storedFields (fs : List (String × Value)) (k : String) :
    field? (storedFields fs) k = (field? fs k).map stored := by
  induction fs with
  | nil => rfl
  | cons f fs ih =>
    obtain ⟨k', v⟩ := f
    simp only [storedFields, field?, List.find?_cons] at ih ⊢
    split <;> simp_all

theorem get?_stored (v : Value) (k : String) : v.stored.get? k = (v.get? k).map stored := by
  cases v <;> simp [stored, get?, field?_storedFields]

theorem withoutId_eq_self {v : Value} (h : v.get? "_id" = none) : v.withoutId = v := by
  cases v with
  | obj fs =>
    simp only [get?, field?, Option.map_eq_none_iff, List.find?_eq_none] at h
    simp only [withoutId, Value.obj.injEq, List.filter_eq_self]
    intro f hf
    simpa using h f hf
  | _ => rfl

theorem withoutId_withId (v id : Value) : (v.withId id).withoutId = v.withoutId := by
  cases v with
  | obj fs =>
    simp only [withId]
    split <;> simp [withoutId]
  | _ => rfl

theorem get?_withId (v id : Value) {k : String} (hk : k ≠ "_id") : (v.withId id).get? k = v.get? k := by
  cases v with
  | obj fs =>
    simp only [withId]
    split
    · rfl
    · have : ("_id" == k) = false := by simpa using fun h => hk h.symm
      simp [get?, field?, this]
  | _ => rfl

end Value

/-- A document kept for `doc`: `doc` in stored form, under some identifier. -/
def Keeps (doc x : Value) : Prop := ∃ id, x = doc.stored.withId id

theorem Keeps.get? {doc x : Value} (h : Keeps doc x) {k : String} (hk : k ≠ "_id") :
    x.get? k = (doc.get? k).map Value.stored := by
  obtain ⟨id, rfl⟩ := h
  rw [Value.get?_withId _ _ hk, Value.get?_stored]

theorem Keeps.withoutId {doc x : Value} (h : Keeps doc x) (hid : doc.get? "_id" = none) :
    x.withoutId = doc.stored := by
  obtain ⟨id, rfl⟩ := h
  rw [Value.withoutId_withId, Value.withoutId_eq_self (by simp [Value.get?_stored, hid])]

/-! ## Collections -/

namespace Database

variable (db : Database)

@[simp] theorem docs_setDocs (name : String) (ds : List Value) : (db.setDocs name ds).docs name = ds := by
  simp [docs, setDocs, Value.find?_setEntry_self]

theorem docs_setDocs_of_ne {name name' : String} (ds : List Value) (hne : name' ≠ name) :
    (db.setDocs name ds).docs name' = db.docs name' := by
  simp [docs, setDocs, Value.find?_setEntry_of_ne _ _ hne]

@[simp] theorem docs_identify (doc : Value) (name : String) : (db.identify doc).1.docs name = db.docs name := by
  unfold identify
  split <;> rfl

theorem docs_insert_of_ne {name name' : String} (doc : Value) (hne : name' ≠ name) :
    (db.insert name doc).docs name' = db.docs name' := by
  simp [insert, docs_setDocs_of_ne _ _ hne]

theorem docs_replaceOrInsert_of_ne {name name' : String} (p : Value → Bool) (filterId : Option Value)
    (doc : Value) (hne : name' ≠ name) :
    (db.replaceOrInsert name p filterId doc).docs name' = db.docs name' := by
  unfold replaceOrInsert
  dsimp only
  split
  · exact docs_setDocs_of_ne _ _ hne
  · split
    · exact docs_setDocs_of_ne _ _ hne
    · exact docs_insert_of_ne _ _ hne

/-- Replacing by a filter, on the collection: the first match, or else the end, takes the
document kept for the new one. -/
theorem docs_replaceOrInsert (name : String) (p : Value → Bool) {doc : Value}
    (hid : doc.get? "_id" = none) :
    ∃ x, Keeps doc x ∧ (db.replaceOrInsert name p none doc).docs name = replaceOrAppend p x (db.docs name) := by
  have hstored : doc.stored.get? "_id" = none := by simp [Value.get?_stored, hid]
  unfold replaceOrInsert
  dsimp only
  cases hi : (db.docs name).findIdx? p with
  | some i =>
    -- the first match is at `i`: it takes the new document under its own identifier
    have hi' := List.findIdx?_eq_some_iff_findIdx_eq.1 hi
    have hany : (db.docs name).any p = true := by
      simpa [List.any_eq_true] using List.findIdx_lt_length.1 (hi'.2 ▸ hi'.1)
    refine ⟨doc.stored.withoutId.withId ((((db.docs name).getD i .null).get? "_id").getD .null),
      ⟨_, by rw [Value.withoutId_eq_self hstored]⟩, ?_⟩
    simp only [docs_setDocs, replaceOrAppend, if_pos hany, hi'.2]
  | none =>
    -- no match: the new document is appended under a generated identifier
    have hany : (db.docs name).any p = false := by simpa using List.findIdx?_eq_none_iff.1 hi
    refine ⟨doc.stored.withId (.ident db.generated), ⟨_, rfl⟩, ?_⟩
    simp [insert, identify, hstored, replaceOrAppend, hany]
    rfl

end Database

end TransitRevenue
