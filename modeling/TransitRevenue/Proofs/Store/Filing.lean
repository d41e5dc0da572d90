import TransitRevenue.Store.FleetRecords
import TransitRevenue.Proofs.Store.Collections
/-!
Collections of the fleet's records that file one record per key.

A write that files a record in such a collection (`Filing`) replaces the first document that
matches the record's key, or appends one, with the record in stored form; every other write
leaves the collection alone. Over any sequence of writes (`writeAll`), starting from a collection
in which each key matches at most one document, three things hold together (`Filing.Holds`): each
key still matches at most one document, the record last filed under a key (`lastFiled`) is kept,
and every document is either one that was there from the start and that no written key matches,
or the record last filed under some key. The invariant is carried write by write
(`Filing.holds_write`) and so over the whole run (`Filing.holds_writeAll`).
-/

namespace TransitRevenue

namespace FleetRecords

/-- The records after a sequence of writes, in order. -/
def writeAll (r : FleetRecords) (ws : List Write) : FleetRecords := ws.foldl write r

@[simp] theorem writeAll_nil (r : FleetRecords) : r.writeAll [] = r := rfl

theorem writeAll_append_singleton (r : FleetRecords) (ws : List Write) (w : Write) :
    r.writeAll (ws ++ [w]) = (r.writeAll ws).write w := by
  simp [writeAll]

section Filing

variable {κ β : Type} [DecidableEq κ]

/-- The record last filed under a key by a sequence of writes, `put` giving what each write files
and under which key. -/
def lastFiled (put : Write → Option (κ × β)) (ws : List Write) (k : κ) : Option β :=
  (ws.filterMap fun w => (put w).bind fun (k', b) => if k' = k then some b else none).getLast?

variable {put : Write → Option (κ × β)}

@[simp] theorem lastFiled_nil (k : κ) : lastFiled put [] k = none := rfl

theorem lastFiled_append_of_put {ws : List Write} {w : Write} {k : κ} {b : β} (hw : put w = some (k, b))
    (k' : κ) : lastFiled put (ws ++ [w]) k' = if k = k' then some b else lastFiled put ws k' := by
  by_cases hk : k = k'
  · simp [lastFiled, hw, hk]
  · simp [lastFiled, hw, hk]

theorem lastFiled_append_of_none {ws : List Write} {w : Write} (hw : put w = none) (k : κ) :
    lastFiled put (ws ++ [w]) k = lastFiled put ws k := by
  simp [lastFiled, hw]

/-- What is last filed under a key was filed under it by one of the writes. -/
theorem exists_of_lastFiled {ws : List Write} {k : κ} {b : β} (h : lastFiled put ws k = some b) :
    ∃ w ∈ ws, put w = some (k, b) := by
  obtain ⟨w, hw, hwb⟩ := List.mem_filterMap.1 (List.mem_of_getLast? h)
  refine ⟨w, hw, ?_⟩
  cases hp : put w with
  | none => simp [hp] at hwb
  | some kb =>
    obtain ⟨k', b'⟩ := kb
    simp only [hp, Option.bind_some] at hwb
    split at hwb
    · cases hwb
      subst k'
      rfl
    · cases hwb

/-- A collection `name` of the records that files, among the keys `K` matched by the filters
`key`, what `put` takes from each write, written as `doc`. -/
structure Filing (name : String) (K : κ → Prop) (key : κ → Value → Bool) (put : Write → Option (κ × β))
    (doc : β → Value) : Prop where
  /-- A write that files a record puts it, kept, in place of the first match of its key or last. -/
  put_docs : ∀ (r : FleetRecords) w k b, put w = some (k, b) →
    ∃ x, Keeps (doc b) x ∧ (r.write w).db.docs name = replaceOrAppend (key k) x (r.db.docs name)
  /-- Other writes leave the collection as it was. -/
  other_docs : ∀ (r : FleetRecords) w, put w = none → (r.write w).db.docs name = r.db.docs name
  /-- A kept record is filed under its own key and under no other. -/
  filed : ∀ w k b x, put w = some (k, b) → K k → Keeps (doc b) x → FiledUnder K key k x

variable {name : String} {K : κ → Prop} {key : κ → Value → Bool} {doc : β → Value}

/-- What a filing collection holds after the writes `ws` over the documents `docs₀`. -/
structure Filing.Holds (K : κ → Prop) (key : κ → Value → Bool) (put : Write → Option (κ × β))
    (doc : β → Value) (docs₀ : List Value) (ws : List Write) (docs : List Value) : Prop where
  /-- Each key matches at most one document. -/
  keyed : KeyedBy K key docs
  /-- The record last filed under a key is kept. -/
  kept : ∀ k b, lastFiled put ws k = some b → ∃ x ∈ docs, Keeps (doc b) x
  /-- Every document was there from the start and matches no written key, or is the record last
  filed under its key. -/
  origin : ∀ x ∈ docs, (x ∈ docs₀ ∧ ∀ w ∈ ws, ∀ k b, put w = some (k, b) → key k x = false) ∨
    ∃ k b, lastFiled put ws k = some b ∧ Keeps (doc b) x

/-- One write keeps what a filing collection holds, when every key filed so far is among `K`. -/
theorem Filing.holds_write (hf : Filing name K key put doc) {r : FleetRecords} {docs₀ : List Value}
    {ws : List Write} {w : Write} (hK : ∀ w' ∈ ws ++ [w], ∀ k b, put w' = some (k, b) → K k)
    (h : Filing.Holds K key put doc docs₀ ws (r.db.docs name)) :
    Filing.Holds K key put doc docs₀ (ws ++ [w]) ((r.write w).db.docs name) := by
  -- a record filed by an earlier write is filed under its own key alone
  have filedLast : ∀ {k b x}, lastFiled put ws k = some b → Keeps (doc b) x → FiledUnder K key k x := by
    intro k b x hb hx
    obtain ⟨w', hw', hput'⟩ := exists_of_lastFiled hb
    exact hf.filed w' k b x hput' (hK w' (List.mem_append_left _ hw') k b hput') hx
  cases hput : put w with
  | none =>
    rw [hf.other_docs r w hput]
    refine ⟨h.keyed, fun k b hb => h.kept k b (by rwa [lastFiled_append_of_none hput] at hb), ?_⟩
    intro x hx
    rcases h.origin x hx with ⟨hx₀, hnone⟩ | ⟨k, b, hb, hkeep⟩
    · refine .inl ⟨hx₀, fun w' hw' k b hput' => ?_⟩
      rcases List.mem_append.1 hw' with hw' | hw'
      · exact hnone w' hw' k b hput'
      · rw [List.mem_singleton.1 hw', hput] at hput'
        cases hput'
    · exact .inr ⟨k, b, by rw [lastFiled_append_of_none hput]; exact hb, hkeep⟩
  | some kb =>
    obtain ⟨k, b⟩ := kb
    obtain ⟨x', hkeep', hdocs⟩ := hf.put_docs r w k b hput
    have hKk : K k := hK w (by simp) k b hput
    have hfiled : FiledUnder K key k x' := hf.filed w k b x' hput hKk hkeep'
    have hkeyed := h.keyed.replaceOrAppend hfiled
    have hmem' : x' ∈ replaceOrAppend (key k) x' (r.db.docs name) := mem_replaceOrAppend_self _
    rw [hdocs]
    refine ⟨hkeyed, ?_, ?_⟩
    · -- the new record is kept, and an earlier one under another key is not replaced
      intro k₁ b₁ hb₁
      rw [lastFiled_append_of_put hput] at hb₁
      split at hb₁
      case isTrue hk₁ =>
        cases hb₁
        exact ⟨x', hmem', hkeep'⟩
      case isFalse hk₁ =>
        obtain ⟨x, hx, hkeep⟩ := h.kept k₁ b₁ hb₁
        have hfx := filedLast hb₁ hkeep
        refine ⟨x, mem_replaceOrAppend_of hx ?_, hkeep⟩
        cases hkx : key k x
        · rfl
        · exact absurd (hfx.2.2 k hKk hkx) hk₁
    · intro y hy
      by_cases hyx : y = x'
      · subst hyx
        exact .inr ⟨k, b, by rw [lastFiled_append_of_put hput, if_pos rfl], hkeep'⟩
      -- any other document no longer matches the key just filed
      have hky : key k y = false := hkeyed.key_eq_false hfiled hmem' hy hyx
      rcases h.origin y ((mem_replaceOrAppend hy).resolve_left hyx) with ⟨hy₀, hnone⟩ | ⟨k₁, b₁, hb₁, hkeep⟩
      · refine .inl ⟨hy₀, fun w' hw' k' b' hput' => ?_⟩
        rcases List.mem_append.1 hw' with hw' | hw'
        · exact hnone w' hw' k' b' hput'
        · rw [List.mem_singleton.1 hw', hput] at hput'
          cases hput'
          exact hky
      · refine .inr ⟨k₁, b₁, ?_, hkeep⟩
        rw [lastFiled_append_of_put hput, if_neg]
        · exact hb₁
        · rintro rfl
          rw [(filedLast hb₁ hkeep).2.1] at hky
          cases hky

/-- Over any sequence of writes that file under keys of `K` only, a filing collection keyed at
the start holds what `Filing.Holds` says of its documents at the start. -/
theorem Filing.holds_writeAll (hf : Filing name K key put doc) (r : FleetRecords) (ws : List Write)
    (hK : ∀ w ∈ ws, ∀ k b, put w = some (k, b) → K k) (h₀ : KeyedBy K key (r.db.docs name)) :
    Filing.Holds K key put doc (r.db.docs name) ws ((r.writeAll ws).db.docs name) := by
  induction ws using List.reverseRecOn with
  | nil => exact ⟨h₀, fun k b hb => by simp at hb, fun x hx => .inl ⟨hx, by simp⟩⟩
  | append_singleton ws w ih =>
    rw [writeAll_append_singleton]
    exact hf.holds_write hK (ih fun w' hw' => hK w' (List.mem_append_left _ hw'))

end Filing

end FleetRecords

end TransitRevenue
