import Mathlib.Data.List.Nodup
import Signpost.Operation
import Signpost.Rule

/-!
# Fields and records

A record is read from its fields one by one. `Rule.ofFields_eq` reduces reading a rule to reading
its fields. `lookup_put` says which value a name has once an entry was put in place, and
`distinct_put` that names which differ still do.
-/
namespace Signpost

theorem lookup_cons_eq_ite (fields : List (String × α)) (name other : String) (value : α) :
    ((name, value) :: fields).lookup other = if other = name then some value
      else fields.lookup other := by
  rw [List.lookup_cons]
  by_cases same : other = name
  · rw [beq_iff_eq.mpr same, if_pos same]
  · rw [beq_eq_false_iff_ne.mpr same, if_neg same]

theorem lookup_of_absent {fields : List (String × α)} {name : String}
    (absent : name ∉ fields.map (·.1)) : fields.lookup name = none := by
  rw [List.lookup_eq_none_iff]
  intro field member
  exact bne_iff_ne.mpr fun same => absent (List.mem_map.mpr ⟨field, member, same.symm⟩)

/-- A field that is found is one of the fields. -/
theorem mem_of_lookup {fields : List (String × α)} {name : String} {value : α}
    (found : fields.lookup name = some value) : (name, value) ∈ fields := by
  obtain ⟨before, after, rfl, _⟩ := List.lookup_eq_some_iff.mp found
  exact List.mem_append_right _ (.head _)

/-- Where names differ, a field is the one that is found. -/
theorem lookup_of_member {fields : List (String × α)} {name : String} {value : α}
    (distinct : (fields.map (·.1)).Nodup) (member : (name, value) ∈ fields) :
    fields.lookup name = some value := by
  obtain ⟨before, after, rfl⟩ := List.append_of_mem member
  rw [List.map_append, List.map_cons, List.nodup_append] at distinct
  refine List.lookup_eq_some_iff.mpr ⟨before, after, rfl, fun field earlier => ?_⟩
  refine bne_iff_ne.mpr fun same => distinct.2.2 field.1 ?_ name (.head _) same.symm
  exact List.mem_map_of_mem earlier

namespace Operations

/-! ### Entries that are put in place -/

theorem lookup_put (entries : List (String × α)) (name other : String) (value : α) :
    (put entries name value).lookup other =
      if other = name then some value else entries.lookup other := by
  induction entries with
  | nil => exact lookup_cons_eq_ite [] name other value
  | cons entry rest ih =>
    obtain ⟨first, old⟩ := entry
    rw [put]
    by_cases here : first = name
    · subst here
      rw [if_pos (beq_self_eq_true _), lookup_cons_eq_ite, lookup_cons_eq_ite]
      by_cases same : other = first
      · rw [if_pos same, if_pos same]
      · rw [if_neg same, if_neg same, if_neg same]
    · rw [if_neg (by simpa using here), lookup_cons_eq_ite, lookup_cons_eq_ite, ih]
      by_cases same : other = first
      · have apart : other ≠ name := fun eq => here (same.symm.trans eq)
        rw [if_pos same, if_neg apart, if_pos same]
      · rw [if_neg same, if_neg same]

/-- An entry of a new name is put at the end. -/
theorem put_of_new {entries : List (String × α)} {name : String}
    (new : name ∉ entries.map (·.1)) (value : α) :
    put entries name value = entries ++ [(name, value)] := by
  induction entries with
  | nil => rfl
  | cons entry rest ih =>
    simp only [List.map_cons, List.mem_cons, not_or] at new
    have other : (entry.1 == name) = false := beq_eq_false_iff_ne.mpr (Ne.symm new.1)
    rw [put, if_neg (by simp [other]), ih new.2]
    rfl

/-- The entry of a name that is known from the last place alone stays there. -/
theorem put_concat {entries : List (String × α)} {name : String} (new : name ∉ entries.map (·.1))
    (old value : α) : put (entries ++ [(name, old)]) name value = entries ++ [(name, value)] := by
  induction entries with
  | nil => exact if_pos (beq_self_eq_true _)
  | cons entry rest ih =>
    simp only [List.map_cons, List.mem_cons, not_or] at new
    have other : (entry.1 == name) = false := beq_eq_false_iff_ne.mpr (Ne.symm new.1)
    rw [List.cons_append, put, if_neg (by simp [other]), ih new.2]
    rfl

/-- An entry of a known name keeps its place. -/
theorem names_put_of_known {entries : List (String × α)} {name : String}
    (known : name ∈ entries.map (·.1)) (value : α) :
    (put entries name value).map (·.1) = entries.map (·.1) := by
  induction entries with
  | nil => cases known
  | cons entry rest ih =>
    by_cases same : entry.1 = name
    · simp [put, same]
    · have later : name ∈ rest.map (·.1) := by
        simpa [Ne.symm same] using known
      simp [put, same, ih later]

/-- Names that differ still differ once an entry is put among them. -/
theorem distinct_put {entries : List (String × α)} (distinct : (entries.map (·.1)).Nodup)
    (name : String) (value : α) : ((put entries name value).map (·.1)).Nodup := by
  by_cases known : name ∈ entries.map (·.1)
  · rw [names_put_of_known known]
    exact distinct
  · rw [put_of_new known, List.map_append, List.nodup_append]
    refine ⟨distinct, List.nodup_singleton _, fun name member other last same => ?_⟩
    rw [same, List.mem_singleton.mp last] at member
    exact known member

/-- Where every step puts its entry at the end, unless the name is known, entries with names that
differ are put there one by one. -/
theorem foldl_of_appends {add : List (String × α) → String × α → List (String × α)}
    (entries more : List (String × α)) (distinct : ((entries ++ more).map (·.1)).Nodup)
    (appends : ∀ entry ∈ more, ∀ entries, entry.1 ∉ entries.map (·.1) →
      add entries entry = entries ++ [entry]) :
    more.foldl add entries = entries ++ more := by
  induction more generalizing entries with
  | nil => rw [List.foldl_nil, List.append_nil]
  | cons entry rest ih =>
    have shifted : entries ++ entry :: rest = (entries ++ [entry]) ++ rest := by simp
    have new : entry.1 ∉ entries.map (·.1) := by
      rw [List.map_append, List.map_cons, List.nodup_append] at distinct
      intro member
      exact distinct.2.2 entry.1 member entry.1 (.head _) rfl
    rw [List.foldl_cons, appends entry (.head _) entries new, shifted]
    rw [shifted] at distinct
    exact ih _ distinct fun other member => appends other (.tail _ member)

theorem mem_put {entries : List (String × α)} {name : String} {value : α} {entry : String × α}
    (member : entry ∈ put entries name value) : entry ∈ entries ∨ entry = (name, value) := by
  fun_induction put entries name value with
  | case1 => exact Or.inr (List.mem_singleton.mp member)
  | case2 other old rest same =>
    rcases List.mem_cons.mp member with set | later
    · exact Or.inr set
    · exact Or.inl (.tail _ later)
  | case3 other old rest _ ih =>
    rcases List.mem_cons.mp member with rfl | later
    · exact Or.inl (.head _)
    · rcases ih later with kept | set
      · exact Or.inl (.tail _ kept)
      · exact Or.inr set

end Operations

/-- To set a field is to put it among the others. -/
theorem Value.setField_eq_put (fields : List (String × Value)) (name : String) (value : Value) :
    setField fields name value = Operations.put fields name value := by
  induction fields with
  | nil => rfl
  | cons field rest ih => rw [setField, Operations.put, ih]

theorem Value.lookup_setField (fields : List (String × Value)) (name other : String)
    (value : Value) :
    (setField fields name value).lookup other =
      if other = name then some value else fields.lookup other := by
  rw [setField_eq_put, Operations.lookup_put]

namespace Schema

variable {α : Type} {field : FieldName} {default x : α} {reader : Reader α}
  {fields : List (String × Value)} {name : String} {value : Value}

/-- The problems that were found. -/
def Checked.problems : Checked α → List Problem
  | .ok _ => []
  | .error problems => problems

theorem problems_ap {β : Type} (f : Checked (α → β)) (x : Checked α) :
    (f.ap x).problems = f.problems ++ x.problems := by
  cases f <;> cases x <;> simp [Checked.ap, Checked.problems]

theorem ap_eq_ok {β : Type} {f : Checked (α → β)} {x : Checked α} {result : β}
    (read : f.ap x = .ok result) : ∃ g a, f = .ok g ∧ x = .ok a ∧ g a = result := by
  cases f with
  | error problems => cases x <;> cases read
  | ok g =>
    cases x with
    | error problems => cases read
    | ok a => exact ⟨g, a, rfl, rfl, Except.ok.inj read⟩

theorem optional_eq (found : field.find? fields = some (name, value))
    (read : reader value = .ok x) : optional field default reader fields = .ok x := by
  simp only [optional, found, readAt, read]

theorem mem_of_find? (found : field.find? fields = some (name, value)) : (name, value) ∈ fields := by
  unfold FieldName.find? at found
  split at found
  next known =>
    cases found
    exact mem_of_lookup known
  next =>
    obtain ⟨other, known, same⟩ := Option.map_eq_some_iff.mp found
    cases same
    exact mem_of_lookup known

theorem readAt_eq_ok {place : List String} (read : readAt place reader value = .ok x) :
    reader value = .ok x := by
  unfold readAt at read
  split at read
  next result =>
    cases read
    exact result
  next => cases read

/-- What is read of a field that has to be there is read from one of the fields. -/
theorem exists_of_required (read : required field reader fields = .ok x) :
    ∃ entry ∈ fields, reader entry.2 = .ok x := by
  unfold required at read
  split at read
  next found => exact ⟨_, mem_of_find? found, readAt_eq_ok read⟩
  next => cases read

theorem exists_of_optional (read : optional field default reader fields = .ok x) :
    x = default ∨ ∃ entry ∈ fields, reader entry.2 = .ok x := by
  unfold optional at read
  split at read
  next found => exact Or.inr ⟨_, mem_of_find? found, readAt_eq_ok read⟩
  next => exact Or.inl (Except.ok.inj read).symm

end Schema

open Schema in
/-- A rule is read from fields of which each is read as one of its own. -/
theorem Rule.ofFields_eq {fields : List (String × Value)} (rule : Rule)
    (id : optional ⟨"id", "id"⟩ none (nullable text) fields = .ok rule.id)
    (path : required ⟨"path", "path"⟩ text fields = .ok rule.path)
    (host : optional ⟨"host", "host"⟩ "" text fields = .ok rule.host)
    (version : optional ⟨"version", "version"⟩ 0 integer fields = .ok rule.version)
    (target : required ⟨"redirectURL", "redirect_url"⟩ text fields = .ok rule.target)
    (status : optional ⟨"statusCode", "status_code"⟩ 301 integer fields = .ok rule.status)
    (start : optional ⟨"utcStartTime", "utc_start_time"⟩ none (nullable integer) fields =
      .ok rule.start)
    (stop : optional ⟨"utcEndTime", "utc_end_time"⟩ none (nullable integer) fields =
      .ok rule.stop)
    (operations : optional ⟨"operations", "operations"⟩ none (nullable text) fields =
      .ok rule.operations)
    (isPattern : optional ⟨"regex", "regex"⟩ false truth fields = .ok rule.isPattern)
    (lastAccessed : optional ⟨"lastAccessed", "last_accessed"⟩ none (nullable integer) fields =
      .ok rule.lastAccessed) :
    Rule.ofFields fields = .ok rule := by
  simp only [Rule.ofFields, publicNames, attributeNames, List.getD_cons_zero,
    List.getD_cons_succ, id, path, host, version, target, status, start, stop, operations,
    isPattern, lastAccessed]
  rfl

end Signpost
