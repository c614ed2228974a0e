import JournalHerald.Value

/-!
# Fields by their names

* `Fields.isSome_get?_iff`, `Fields.get?_set` and `Fields.get?_set_of_ne` look a field up;
* `Fields.set_of_notMem` puts a new field behind the others, `Fields.map_fst_set` leaves an old one in its
  place.
-/

namespace JournalHerald.Fields

variable {fields : Fields} {name : Text}

theorem isSome_get?_iff : (fields.get? name).isSome = true ↔ name ∈ fields.map Prod.fst := by
  simp [get?]

theorem get?_eq_none (h : name ∉ fields.map Prod.fst) : fields.get? name = none := by
  rwa [← isSome_get?_iff, Option.not_isSome_iff_eq_none] at h

theorem mem_keys_of_get? {v : Value} (h : fields.get? name = some v) : name ∈ fields.map Prod.fst :=
  isSome_get?_iff.1 (by rw [h]; rfl)

/-- A new field is put behind the others. -/
theorem set_of_notMem (h : name ∉ fields.map Prod.fst) (v : Value) : fields.set name v = fields ++ [(name, v)] := by
  have hnone : ¬(fields.any fun f => f.1 == name) = true := by simpa using h
  rw [set, if_neg hnone]

/-- A field that is there is replaced. -/
theorem set_of_mem (h : name ∈ fields.map Prod.fst) (v : Value) :
    fields.set name v = fields.map fun f => if f.1 == name then (name, v) else f := by
  have hany : (fields.any fun f => f.1 == name) = true := by simpa using h
  rw [set, if_pos hany]

/-- A field that has been set has the value that it has been set to. -/
theorem get?_set (fields : Fields) (name : Text) (v : Value) : (fields.set name v).get? name = some v := by
  by_cases h : name ∈ fields.map Prod.fst
  · induction fields with
    | nil => cases h
    | cons f fields ih =>
      rw [set_of_mem h]
      by_cases hname : f.1 = name
      · simp [get?, hname]
      · have hmore : name ∈ fields.map Prod.fst := by simpa [Ne.symm hname] using h
        have hset := ih hmore
        rw [set_of_mem hmore] at hset
        simpa [get?, hname] using hset
  · have hnone := get?_eq_none h
    rw [get?, Option.map_eq_none_iff] at hnone
    rw [set_of_notMem h, get?, List.find?_append, hnone]
    simp

/-- A field that is there keeps its place. -/
theorem map_fst_set (h : name ∈ fields.map Prod.fst) (v : Value) :
    (fields.set name v).map Prod.fst = fields.map Prod.fst := by
  rw [set_of_mem h, List.map_map]
  refine List.map_congr_left fun f _ => ?_
  by_cases hname : f.1 = name <;> simp [hname]

/-- To set a field changes no other one. -/
theorem get?_set_of_ne {other : Text} (h : other ≠ name) (v : Value) :
    (fields.set name v).get? other = fields.get? other := by
  by_cases hmem : name ∈ fields.map Prod.fst
  · rw [set_of_mem hmem]
    clear hmem
    induction fields with
    | nil => rfl
    | cons f fields ih =>
      unfold get? at ih ⊢
      by_cases hname : f.1 = name
      · simpa [hname, h.symm] using ih
      · by_cases hother : f.1 = other
        · simp [hother, h]
        · simpa [hname, hother] using ih
  · rw [set_of_notMem hmem, get?, get?, List.find?_append]
    simp [h.symm]

theorem notMem_of_nodup {before others : Fields} {f : Text × Value}
    (h : ((before ++ f :: others).map Prod.fst).Nodup) : f.1 ∉ before.map Prod.fst := by
  rw [List.map_append, List.map_cons] at h
  intro hmem
  exact (List.nodup_append.1 h).2.2 _ hmem _ List.mem_cons_self rfl

end JournalHerald.Fields
