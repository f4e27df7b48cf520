import Mathlib.Data.List.Basic

/-! JSON values and readers for them, in the manner of a schema library: required
and defaulted keys, nullable values, lists, dictionaries and literals. Numbers with
a fraction are an arbitrary type. -/
namespace AgentOE.Json

inductive Value (F : Type) where
  | null
  | bool (value : Bool)
  | int (value : Int)
  | float (value : F)
  | str (value : String)
  | arr (items : List (Value F))
  | obj (entries : List (String × Value F))

abbrev Dict (F : Type) := List (String × Value F)

/-- The reader refuses with `none`. -/
abbrev Reader (F α : Type) := Value F → Option α

variable {F α : Type}

def nullable (write : α → Value F) (value : Option α) : Value F := value.elim .null write

def optional (read : Reader F α) : Reader F (Option α)
  | .null => some none
  | value => (read value).map some

def checked (p : α → Bool) (read : Reader F α) : Reader F α := fun value => (read value).filter p

def readAll (read : β → Option α) : List β → Option (List α)
  | [] => some []
  | item :: items => (read item).bind fun first => (readAll read items).map (first :: ·)

def list (read : Reader F α) : Reader F (List α)
  | .arr items => readAll read items
  | _ => none

def dict (read : Reader F α) : Reader F (List (String × α))
  | .obj entries => readAll (fun entry => (read entry.2).map fun value => (entry.1, value)) entries
  | _ => none

def literal (names : List (String × α)) : Reader F α
  | .str name => names.lookup name
  | _ => none

def required (read : Reader F α) (key : String) (entries : Dict F) : Option α :=
  (entries.lookup key).bind read

def defaulted (read : Reader F α) (default : α) (key : String) (entries : Dict F) : Option α :=
  (entries.lookup key).elim (some default) read

/-- A key that may be absent. -/
def maybe (read : Reader F α) (key : String) (entries : Dict F) : Option (Option α) :=
  defaulted (fun value => (read value).map some) none key entries

/-- No key for an absent value. -/
def field (key : String) (value : Option (Value F)) : Dict F :=
  value.toList.map fun value => (key, value)

mutual

/-- Every scalar is replaced. -/
def Value.replace (f : Value F → Value F) : Value F → Value F
  | .arr items => .arr (replaceAll f items)
  | .obj entries => .obj (replaceEntries f entries)
  | scalar => f scalar

def replaceAll (f : Value F → Value F) : List (Value F) → List (Value F)
  | [] => []
  | item :: items => item.replace f :: replaceAll f items

def replaceEntries (f : Value F → Value F) : Dict F → Dict F
  | [] => []
  | (key, value) :: entries => (key, value.replace f) :: replaceEntries f entries

end

mutual

/-- Something holds of every scalar of a value. -/
def Value.Every (p : Value F → Prop) : Value F → Prop
  | .arr items => EveryItem p items
  | .obj entries => EveryEntry p entries
  | scalar => p scalar

def EveryItem (p : Value F → Prop) : List (Value F) → Prop
  | [] => True
  | item :: items => item.Every p ∧ EveryItem p items

def EveryEntry (p : Value F → Prop) : Dict F → Prop
  | [] => True
  | (_, value) :: entries => value.Every p ∧ EveryEntry p entries

end

/-- Readers of scalars, with whatever conversions they make. -/
structure Scalars (F : Type) where
  str : Reader F String
  int : Reader F Int
  float : Reader F F
  bool : Reader F Bool

/-- A scalar of the wanted type is read as it is. -/
structure Scalars.Lawful (scalars : Scalars F) : Prop where
  str : ∀ value, scalars.str (.str value) = some value
  int : ∀ value, scalars.int (.int value) = some value
  float : ∀ value, scalars.float (.float value) = some value
  bool : ∀ value, scalars.bool (.bool value) = some value

theorem replaceAll_eq_map (f : Value F → Value F) (items : List (Value F)) :
    replaceAll f items = items.map (Value.replace f) := by
  induction items with
  | nil => rfl
  | cons item items ih => rw [replaceAll, ih, List.map_cons]

theorem Value.replace_arr (f : Value F → Value F) (items : List (Value F)) :
    (Value.arr items).replace f = .arr (items.map (Value.replace f)) := by
  rw [Value.replace, replaceAll_eq_map]

theorem Value.replace_obj (f : Value F → Value F) (entries : Dict F) :
    (Value.obj entries).replace f = .obj (replaceEntries f entries) := rfl

theorem replaceEntries_eq_map (f : Value F → Value F) (entries : Dict F) :
    replaceEntries f entries = entries.map fun entry => (entry.1, entry.2.replace f) := by
  induction entries with
  | nil => rfl
  | cons entry entries ih => rw [replaceEntries, ih, List.map_cons]

theorem lookup_replaceEntries (f : Value F → Value F) (entries : Dict F) (key : String) :
    (replaceEntries f entries).lookup key = (entries.lookup key).map (Value.replace f) := by
  induction entries with
  | nil => rfl
  | cons entry entries ih =>
    obtain ⟨name, value⟩ := entry
    cases same : key == name <;> simp [replaceEntries, List.lookup_cons, same, ih]

mutual

theorem Value.replace_eq_iff {f g : Value F → Value F} (value : Value F) :
    value.replace f = value.replace g ↔ value.Every fun scalar => f scalar = g scalar := by
  cases value with
  | arr items =>
    simpa only [Value.replace, Value.Every, Value.arr.injEq] using replaceAll_eq_iff items
  | obj entries =>
    simpa only [Value.replace, Value.Every, Value.obj.injEq] using replaceEntries_eq_iff entries
  | _ => exact Iff.rfl

theorem replaceAll_eq_iff {f g : Value F → Value F} (items : List (Value F)) :
    replaceAll f items = replaceAll g items ↔
      EveryItem (fun scalar => f scalar = g scalar) items := by
  cases items with
  | nil => exact iff_of_true rfl trivial
  | cons item items =>
    simp only [replaceAll, EveryItem, List.cons.injEq, item.replace_eq_iff, replaceAll_eq_iff items]

theorem replaceEntries_eq_iff {f g : Value F → Value F} (entries : Dict F) :
    replaceEntries f entries = replaceEntries g entries ↔
      EveryEntry (fun scalar => f scalar = g scalar) entries := by
  match entries with
  | [] => exact iff_of_true rfl trivial
  | (key, value) :: entries =>
    simp only [replaceEntries, EveryEntry, List.cons.injEq, Prod.mk.injEq, true_and,
      value.replace_eq_iff, replaceEntries_eq_iff entries]

end

theorem lookup_field_append (name key : String) (value : Option (Value F)) (rest : Dict F) :
    (field key value ++ rest).lookup name =
      if name == key then value.or (rest.lookup name) else rest.lookup name := by
  cases value with
  | none => simp [field]
  | some value => cases same : name == key <;> simp [field, List.lookup_cons, same]

theorem lookup_field (name key : String) (value : Option (Value F)) :
    (field key value).lookup name = if name == key then value else none := by
  have alone := lookup_field_append name key value []
  rwa [List.append_nil, List.lookup_nil, Option.or_none] at alone

theorem optional_nullable {read : Reader F α} {write : α → Value F}
    (reads : ∀ value, read (write value) = some value) (present : ∀ value, write value ≠ .null)
    (value : Option α) : optional read (nullable write value) = some value := by
  cases value with
  | none => rfl
  | some value =>
    have kept := reads value
    simp only [nullable, Option.elim_some]
    unfold optional
    split
    · rename_i null
      exact absurd null (present value)
    · rw [kept, Option.map_some]

theorem readAll_map {read : β → Option α} {write : α → β} {items : List α}
    (reads : ∀ item ∈ items, read (write item) = some item) :
    readAll read (items.map write) = some items := by
  induction items with
  | nil => rfl
  | cons item items ih =>
    obtain ⟨first, rest⟩ := List.forall_mem_cons.mp reads
    simp [readAll, first, ih rest]

theorem list_arr {read : Reader F α} {write : α → Value F} {items : List α}
    (reads : ∀ item ∈ items, read (write item) = some item) :
    list read (.arr (items.map write)) = some items := readAll_map reads

theorem dict_obj {read : Reader F α} {write : α → Value F} {entries : List (String × α)}
    (reads : ∀ value, read (write value) = some value) :
    dict read (.obj (entries.map fun entry => (entry.1, write entry.2))) = some entries := by
  apply readAll_map
  intro entry _
  simp [reads]

theorem checked_some {p : α → Bool} {read : Reader F α} (reads : read value = some item)
    (passes : p item = true) : checked p read value = some item := by
  simp [checked, reads, Option.filter, passes]

theorem checked_passes {p : α → Bool} {read : Reader F α}
    (accepted : checked p read value = some item) : p item = true :=
  (Option.filter_eq_some_iff.mp accepted).2

theorem required_passes {p : α → Bool} {read : Reader F α}
    (accepted : required (checked p read) key entries = some item) : p item = true := by
  obtain ⟨value, -, accepted⟩ := Option.bind_eq_some_iff.mp accepted
  exact checked_passes accepted

/-- A default passes the check of its field, or the field is there and passes it. -/
theorem defaulted_passes {p : α → Bool} {read : Reader F α} {initial : α}
    (passes : p initial = true)
    (accepted : defaulted (checked p read) initial key entries = some item) : p item = true := by
  unfold defaulted at accepted
  cases found : entries.lookup key with
  | none =>
    rw [found] at accepted
    cases accepted
    exact passes
  | some value =>
    rw [found] at accepted
    exact checked_passes accepted

theorem readAll_forall {read : β → Option α} {good : α → Prop}
    (sound : ∀ value item, read value = some item → good item) {values : List β}
    (accepted : readAll read values = some items) : ∀ item ∈ items, good item := by
  induction values generalizing items with
  | nil =>
    cases accepted
    exact fun _ mem => by cases mem
  | cons value values ih =>
    obtain ⟨first, read, rest⟩ := Option.bind_eq_some_iff.mp accepted
    obtain ⟨others, tail, rfl⟩ := Option.map_eq_some_iff.mp rest
    exact List.forall_mem_cons.mpr ⟨sound value first read, ih tail⟩

theorem readAll_map_iff {read : β → Option α} {f : γ → β} {g : γ → α} {good : γ → Prop}
    {items : List γ}
    (reads : ∀ item ∈ items, ∀ value, read (f item) = some value ↔ good item ∧ g item = value)
    {parsed : List α} : readAll read (items.map f) = some parsed ↔
      (∀ item ∈ items, good item) ∧ items.map g = parsed := by
  induction items generalizing parsed with
  | nil => simp [readAll]
  | cons item items ih =>
    obtain ⟨here, rest⟩ := List.forall_mem_cons.mp reads
    simp only [List.map_cons, readAll, Option.bind_eq_some_iff, Option.map_eq_some_iff, here,
      ih rest, List.forall_mem_cons]
    constructor
    · rintro ⟨first, ⟨fine, rfl⟩, others, ⟨all, rfl⟩, rfl⟩
      exact ⟨⟨fine, all⟩, rfl⟩
    · rintro ⟨⟨fine, all⟩, rfl⟩
      exact ⟨_, ⟨fine, rfl⟩, _, ⟨all, rfl⟩, rfl⟩

/-- A list is read with a given view when each item is. -/
theorem readAll_view_iff {read : β → Option α} {f : γ → β} {view : α → δ} {expected : γ → δ}
    {items : List γ} :
    (∃ parsed, readAll read (items.map f) = some parsed ∧ parsed.map view = items.map expected) ↔
      ∀ item ∈ items, ∃ value, read (f item) = some value ∧ view value = expected item := by
  induction items with
  | nil => simp [readAll]
  | cons item items ih =>
    rw [List.forall_mem_cons, ← ih]
    constructor
    · rintro ⟨parsed, read, same⟩
      obtain ⟨first, here, rest⟩ := Option.bind_eq_some_iff.mp read
      obtain ⟨others, all, rfl⟩ := Option.map_eq_some_iff.mp rest
      obtain ⟨head, tail⟩ := List.cons.inj same
      exact ⟨⟨first, here, head⟩, others, all, tail⟩
    · rintro ⟨⟨first, here, head⟩, others, all, tail⟩
      refine ⟨first :: others, ?_, by rw [List.map_cons, List.map_cons, head, tail]⟩
      rw [List.map_cons, readAll, here, Option.bind_some, all, Option.map_some]

theorem list_forall {read : Reader F α} {good : α → Prop}
    (sound : ∀ value item, read value = some item → good item)
    (accepted : required (list read) key entries = some items) : ∀ item ∈ items, good item := by
  obtain ⟨value, -, accepted⟩ := Option.bind_eq_some_iff.mp accepted
  cases value with
  | arr values => exact readAll_forall sound accepted
  | _ => cases accepted

end AgentOE.Json
