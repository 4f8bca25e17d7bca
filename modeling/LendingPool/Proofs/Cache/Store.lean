import LendingPool.Cache.Store
/-! What a store holds after an operation. An eviction only ever takes entries away. -/

namespace LendingPool.Store

variable {store : Store} {now : Nat} {key other : String} {entry : Entry}

theorem stored?_cons (name : String) (entry : Entry) (store : Store) (key : String) :
    stored? ((name, entry) :: store) key =
      if key = name then some entry else store.stored? key := by
  rw [stored?, stored?, List.lookup_cons]
  by_cases same : key = name
  · rw [if_pos same, beq_iff_eq.mpr same]
  · rw [if_neg same, beq_eq_false_iff_ne.mpr same]

theorem stored?_delete (store : Store) (key other : String) :
    (store.delete key).stored? other = if other = key then none else store.stored? other := by
  induction store with
  | nil => simp [delete, stored?]
  | cons first store induction =>
      rcases first with ⟨name, entry⟩
      rw [delete] at induction ⊢
      by_cases removed : name = key
      · rw [List.filter_cons_of_neg (by simp [removed]), induction, stored?_cons, removed]
        split <;> rfl
      · rw [List.filter_cons_of_pos (by simp [removed]), stored?_cons, stored?_cons, induction]
        by_cases found : other = name
        · rw [if_pos found, if_pos found, found, if_neg removed]
        · rw [if_neg found, if_neg found]

theorem stored?_replace (store : Store) (key other : String) (entry : Entry) :
    (store.replace key entry).stored? other =
      if other = key then some entry else store.stored? other := by
  rw [replace, stored?_cons, stored?_delete]
  split <;> rfl

theorem stored?_of_delete (kept : (store.delete key).stored? other = some entry) :
    store.stored? other = some entry := by
  rw [stored?_delete] at kept
  split at kept
  · cases kept
  · exact kept

theorem stored?_of_evict (kept : (store.evict now key).stored? other = some entry) :
    store.stored? other = some entry := by
  rw [evict] at kept
  split at kept
  · exact stored?_of_delete kept
  · exact kept

/-! ## Deadlines -/

theorem deadline?_some_eq_some_iff {lifetime : Nat} {deadline : Option Nat} :
    deadline? now (some lifetime) = some deadline ↔
      now + lifetime < clockEnd ∧ deadline = some (now + lifetime) := by
  rw [deadline?]
  split
  · rename_i told
    exact ⟨fun same => ⟨told, (Option.some.inj same).symm⟩,
      fun ⟨_, same⟩ => congrArg some same.symm⟩
  · rename_i untold
    exact ⟨nofun, fun told => absurd told.1 untold⟩

theorem deadline?_some_eq_none_iff {lifetime : Nat} :
    deadline? now (some lifetime) = none ↔ clockEnd ≤ now + lifetime := by
  rw [deadline?, ite_eq_right_iff, ← Nat.not_lt]
  exact forall_congr' fun _ => ⟨nofun, nofun⟩

theorem deadline?_eq_map {lifetime deadline : Option Nat}
    (told : deadline? now lifetime = some deadline) : deadline = lifetime.map (now + ·) := by
  cases lifetime with
  | none => exact (Option.some.inj told).symm
  | some lifetime => exact (deadline?_some_eq_some_iff.mp told).2

/-! ## Live entries

Only a live entry can be told from none. What has expired stays expired. -/

def live? (store : Store) (now : Nat) (key : String) : Option Entry :=
  (store.stored? key).filter (Entry.isLive now)

theorem live?_eq_some_iff :
    store.live? now key = some entry ↔
      store.stored? key = some entry ∧ entry.isLive now = true := by
  rw [live?, Option.filter_eq_some_iff]

theorem isLive_of_le {later : Nat} (goesBy : now ≤ later) (lives : entry.isLive later = true) :
    entry.isLive now = true := by
  rcases entry with ⟨value, _ | deadline⟩
  · rfl
  · simp only [Entry.isLive, decide_eq_true_eq] at lives ⊢
    omega

theorem contains_eq (store : Store) (now : Nat) (key : String) :
    store.contains now key = (store.live? now key).isSome := by
  rw [contains, live?]
  cases store.stored? key with
  | none => rfl
  | some entry => cases lives : entry.isLive now <;> simp [lives]

theorem get_eq (store : Store) (now : Nat) (key : String) :
    store.get now key = ((store.live? now key).map Entry.value, store.evict now key) := by
  rw [get, find, evict, live?]
  cases stored : store.stored? key with
  | none => rfl
  | some entry => cases lives : entry.isLive now <;> simp [Option.filter, lives]

theorem live?_delete (store : Store) (now : Nat) (key other : String) :
    (store.delete key).live? now other = if other = key then none else store.live? now other := by
  rw [live?, stored?_delete]
  split <;> rfl

theorem live?_replace (store : Store) (now : Nat) (key other : String) (entry : Entry) :
    (store.replace key entry).live? now other =
      if other = key then (some entry).filter (Entry.isLive now) else store.live? now other := by
  rw [live?, stored?_replace]
  split <;> rfl

theorem live?_evict (store : Store) (now : Nat) (key other : String) :
    (store.evict now key).live? now other = store.live? now other := by
  rw [evict]
  split
  · rename_i expired
    rw [live?_delete]
    split
    · rename_i same
      rw [same, live?]
      cases stored : store.stored? key with
      | none => rfl
      | some entry => simpa [stored, Option.filter] using expired
    · rfl
  · rfl

theorem stored?_evict (store : Store) (now : Nat) (key other : String) :
    (store.evict now key).stored? other = store.stored? other ∨
      (store.evict now key).stored? other = none ∧
        ∃ entry, store.stored? other = some entry ∧ entry.isLive now = false := by
  rw [evict]
  split
  · rename_i expired
    rw [stored?_delete]
    split
    · rename_i same
      rw [← same] at expired
      cases stored : store.stored? other with
      | none => simp [stored] at expired
      | some entry => exact .inr ⟨rfl, entry, rfl, by simpa [stored] using expired⟩
    · exact .inl rfl
  · exact .inl rfl

theorem stored?_evict_of_expired (stored : store.stored? key = some entry)
    (expired : entry.isLive now = false) : (store.evict now key).stored? key = none := by
  rw [evict, if_pos (by simp [stored, expired]), stored?_delete, if_pos rfl]

theorem live?_later (store : Store) (key : String) {later : Nat} (goesBy : now ≤ later) :
    store.live? later key = (store.live? now key).filter (Entry.isLive later) := by
  rw [live?, live?, Option.filter_filter]
  congr 1
  funext entry
  cases lives : entry.isLive later with
  | false => rw [Bool.and_false]
  | true => rw [isLive_of_le goesBy lives, Bool.and_true]

end LendingPool.Store
