import Mathlib.Data.List.Perm.Basic
import Statechart.Document.Fields
import Statechart.Proofs.Documents

/-!
# Fields: structures found in objects

An object that shows some of the fields of a structure, in any order and among members of other names, is read as the
structure with these fields and no others (`Document.Revises.fields?`). What is left out has its default, and what is
there is read from its own document.
-/
namespace Statechart.Document

/-! ## Objects that show fields -/

/-- An object shows the fields that are not omitted, in any order, among strangers: members whose names are not those
of fields. -/
def Revises (fields : List (String × Document)) (omitted : String → Bool) (document : Document) : Prop :=
  ∃ shown strangers, document = ofFields shown ∧
    shown.Perm (fields.filter (fun field => !omitted field.1) ++ strangers) ∧
    ∀ stranger ∈ strangers, stranger.1 ∉ fields.map Prod.fst

/-- What is written of a structure shows all of its fields. -/
theorem Revises.all (fields : List (String × Document)) : Revises fields (fun _ => false) (ofFields fields) :=
  ⟨fields,[],rfl,by simp,by simp⟩

section
variable {fields : List (String × Document)} {omitted : String → Bool}

/-- Where names are different, at most one field has a given one. -/
theorem filter_of_distinct (distinct : (fields.map Prod.fst).Nodup) (name : String) :
    fields.filter (fun field => field.1 = name) = (fields.lookup name).toList.map (name,·) := by
  induction fields with
  | nil => rfl
  | cons field rest ih =>
    obtain ⟨key,value⟩ := field
    obtain ⟨first,later⟩ := List.nodup_cons.mp distinct
    by_cases same : key = name
    · subst same
      have none : rest.filter (fun field => field.1 = key) = [] := by
        rw [List.filter_eq_nil_iff]
        intro other member equal
        exact first (List.mem_map.mpr ⟨other,member,of_decide_eq_true equal⟩)
      simp [none]
    · have other : (name == key) = false := by simpa using Ne.symm same
      rw [List.filter_cons_of_neg (by simpa using same),List.lookup_cons,other]
      exact ih later

/-- An omitted field is not found, and any other as if none were omitted. -/
theorem filter_of_omitted (distinct : (fields.map Prod.fst).Nodup) (name : String) :
    (fields.filter fun field => !omitted field.1).filter (fun field => field.1 = name) =
      (if omitted name then none else fields.lookup name).toList.map (name,·) := by
  rw [List.filter_comm,filter_of_distinct distinct]
  cases left : omitted name <;> cases fields.lookup name <;> simp [left]

theorem filter_of_strange {strangers : List (String × Document)}
    (strange : ∀ stranger ∈ strangers, stranger.1 ∉ fields.map Prod.fst) {name : String}
    (known : name ∈ fields.map Prod.fst) : strangers.filter (fun stranger => stranger.1 = name) = [] := by
  rw [List.filter_eq_nil_iff]
  intro stranger member equal
  exact strange stranger member (of_decide_eq_true equal ▸ known)

/-- The members of the name of a field are that field, unless it is omitted. -/
theorem filter_shown (distinct : (fields.map Prod.fst).Nodup) {shown strangers : List (String × Document)}
    (perm : shown.Perm (fields.filter (fun field => !omitted field.1) ++ strangers))
    (strange : ∀ stranger ∈ strangers, stranger.1 ∉ fields.map Prod.fst) {name : String}
    (known : name ∈ fields.map Prod.fst) :
    shown.filter (fun field => field.1 = name) =
      (if omitted name then none else fields.lookup name).toList.map (name,·) := by
  have same := perm.filter fun field => decide (field.1 = name)
  rw [List.filter_append,filter_of_strange strange known,List.append_nil,filter_of_omitted distinct] at same
  generalize (if omitted name then none else fields.lookup name) = found at same ⊢
  cases found with
  | none => exact List.perm_nil.mp same
  | some value => exact List.perm_singleton.mp same

end

theorem member?_ofFields (shown : List (String × Document)) (name : String) :
    member? (shown.map fun field => (some field.1,field.2)) name =
      ((shown.filter fun field => field.1 = name).head?).map Prod.snd := by
  rw [member?,List.find?_map,Option.map_map,List.head?_filter]
  simp only [Function.comp_def,Option.some.injEq]

theorem countP_ofFields (shown : List (String × Document)) (name : String) :
    (shown.map fun field => (some field.1,field.2)).countP (fun entry => entry.1 = some name) =
      (shown.filter fun field => field.1 = name).length := by
  rw [List.countP_map,List.countP_eq_length_filter]
  simp only [Function.comp_def,Option.some.injEq]

/-- Of an object that shows fields, those are found that are not omitted. -/
theorem Revises.fields? {fields : List (String × Document)} {omitted : String → Bool} {document : Document}
    (revises : Revises fields omitted document) (distinct : (fields.map Prod.fst).Nodup) :
    ∃ found, document.fields? (fields.map Prod.fst) = some ⟨false,found⟩ ∧
      ∀ name ∈ fields.map Prod.fst, found name = if omitted name then none else fields.lookup name := by
  obtain ⟨shown,strangers,rfl,perm,strange⟩ := revises
  have only : ∀ name ∈ fields.map Prod.fst, _ := fun name known => filter_shown distinct perm strange known
  refine ⟨_,if_pos ?_,?_⟩
  · rw [Bool.and_eq_true,List.all_eq_true,List.all_eq_true]
    constructor
    · intro entry member
      obtain ⟨field,_,rfl⟩ := List.mem_map.mp member
      rfl
    · intro name known
      rw [decide_eq_true_iff,countP_ofFields,only name known]
      cases (if omitted name then none else fields.lookup name) <;> simp
  · intro name known
    rw [member?_ofFields,only name known]
    cases (if omitted name then none else fields.lookup name) <;> rfl

/-! ## Fields that are there or have their default -/

namespace Fields

variable {α : Type} {members : String → Option Document} {name : String} {document : Document} {value : α}
  {omitted : Bool} {decode : Document → Option α} {encode : α → Document}

theorem required_eq (found : members name = some document) (reads : decode document = some value) :
    (Fields.mk false members).required name decode = some value := by
  simp only [required,found]
  exact reads

theorem defaulted_eq (found : members name = if omitted then none else some document)
    (reads : decode document = some value) (default : α) :
    (Fields.mk false members).defaulted name default decode = some (if omitted then default else value) := by
  simp only [defaulted,found]
  cases omitted with
  | true => rfl
  | false => exact reads

theorem optional_eq {content : Option α} (found : members name = some (ofOption encode content))
    (reads : ∀ value, decode (encode value) = some value) (solid : ∀ value, encode value ≠ .null) :
    (Fields.mk false members).optional name decode = some content := by
  simp only [optional,found]
  cases content with
  | none => rfl
  | some value =>
    simp only [ofOption]
    split
    · rename_i same
      cases same
    · rename_i same
      exact absurd (Option.some.inj same) (solid value)
    · rename_i same
      cases same
      rw [reads]
      rfl

/-- Where a field is there, it does not matter what its absence would mean. -/
theorem nullable_eq_optional (found : members name = some document) :
    (Fields.mk false members).nullable name decode = (Fields.mk false members).optional name decode := by
  simp only [nullable,optional,found]
  cases document <;> rfl

theorem nullable_eq {content : Option α}
    (found : members name = if omitted then none else some (ofOption encode content))
    (reads : ∀ value, decode (encode value) = some value) (solid : ∀ value, encode value ≠ .null) :
    (Fields.mk false members).nullable name decode = some (if omitted then none else content) := by
  cases omitted with
  | true => simp only [nullable,found]; rfl
  | false => rw [nullable_eq_optional found]; exact optional_eq found reads solid

end Fields

/-! ## Values of fields -/

theorem natural?_ofUInt64 (value : UInt64) : (ofUInt64 value).natural? = some value := by
  have small : value.toNat < UInt64.size := value.toNat_lt
  simp [ofUInt64,natural?,Numeral.ofNat,Numeral.natural?,small]

theorem ofUInt64_ne_null (value : UInt64) : ofUInt64 value ≠ .null := nofun

theorem string?_ofString (value : String) : (ofString value).string? = some value := rfl

theorem ofString_ne_null (value : String) : ofString value ≠ .null := nofun

theorem list?_map {α : Type} {encode : α → Document} {decode : Document → Option α} {values : List α}
    (reads : ∀ value ∈ values, decode (encode value) = some value) :
    (list (values.map encode)).list? decode = some values := by
  rw [list?]
  induction values with
  | nil => rfl
  | cons value rest ih =>
    rw [List.map_cons,List.mapM_cons,reads value List.mem_cons_self,
      ih fun other member => reads other (List.mem_cons_of_mem _ member)]
    rfl

theorem proper_ofOption {α : Type} {encode : α → Document} (proper : ∀ value, (encode value).Proper)
    (content : Option α) : (ofOption encode content).Proper := by
  cases content with
  | none => trivial
  | some value => exact proper value

theorem proper_ofUInt64 (value : UInt64) : (ofUInt64 value).Proper := by
  rintro digit ⟨⟩

theorem properItems_iff (items : List Document) : ProperItems items ↔ ∀ item ∈ items, item.Proper := by
  induction items with
  | nil => simp [ProperItems]
  | cons item rest ih => simp [ProperItems,ih]

theorem proper_ofFields (shown : List (String × Document)) :
    (ofFields shown).Proper ↔ ∀ field ∈ shown, field.2.Proper := by
  rw [ofFields,Proper]
  induction shown with
  | nil => simp [ProperMembers]
  | cons field rest ih => simp [ProperMembers,ih]

/-! ## Objects of which a plain field is left out -/

theorem isSound_ofFields_cons (field : String × Document) (rest : List (String × Document)) :
    (ofFields (field :: rest)).isSound = (field.2.isSound && (ofFields rest).isSound) := by
  simp [ofFields,isSound,areSoundMembers]

theorem depth_ofFields_cons (field : String × Document) (rest : List (String × Document)) :
    (ofFields (field :: rest)).depth = max (field.2.depth + 1) (ofFields rest).depth := by
  simp [ofFields,depth,depthOfMembers]

/-- Fields that are sound and flat make no difference to whether an object is sound, and how deep it is. -/
theorem shape_filter {shown : List (String × Document)} {keep : String × Document → Bool}
    (flat : ∀ field ∈ shown, keep field = false → field.2.isSound = true ∧ field.2.depth = 0) :
    (ofFields (shown.filter keep)).isSound = (ofFields shown).isSound ∧
      (ofFields (shown.filter keep)).depth = (ofFields shown).depth := by
  induction shown with
  | nil => exact ⟨rfl,rfl⟩
  | cons field rest ih =>
    obtain ⟨sound,deep⟩ := ih fun other member => flat other (List.mem_cons_of_mem _ member)
    rw [isSound_ofFields_cons,depth_ofFields_cons]
    cases kept : keep field with
    | true =>
      rw [List.filter_cons_of_pos kept,isSound_ofFields_cons,depth_ofFields_cons,sound,deep]
      exact ⟨rfl,rfl⟩
    | false =>
      obtain ⟨plain,level⟩ := flat field List.mem_cons_self kept
      have least : 1 ≤ (ofFields rest).depth := Nat.le_add_left _ _
      rw [List.filter_cons_of_neg (by simp [kept]),sound,deep,plain,level]
      exact ⟨(Bool.true_and _).symm,(Nat.max_eq_right least).symm⟩

/-- Without the first field, an object shows the others. -/
theorem revises_filter {first : String × Document} {fields shown strangers : List (String × Document)}
    {omitted : String → Bool} (distinct : ((first :: fields).map Prod.fst).Nodup)
    (perm : shown.Perm ((first :: fields).filter (fun field => !omitted field.1) ++ strangers))
    (strange : ∀ stranger ∈ strangers, stranger.1 ∉ (first :: fields).map Prod.fst) :
    Revises fields omitted (ofFields (shown.filter fun field => field.1 ≠ first.1)) := by
  obtain ⟨new,_⟩ := List.nodup_cons.mp distinct
  refine ⟨_,strangers,rfl,?_,fun stranger member again => strange stranger member (List.mem_cons_of_mem _ again)⟩
  have others : ∀ field ∈ fields, field.1 ≠ first.1 := by
    rintro field member same
    exact new (same ▸ List.mem_map_of_mem member)
  have unknown : ∀ stranger ∈ strangers, stranger.1 ≠ first.1 := by
    rintro stranger member same
    exact strange stranger member (same ▸ List.mem_cons_self)
  have kept := perm.filter fun field => decide (field.1 ≠ first.1)
  rw [List.filter_append,List.filter_comm,List.filter_cons_of_neg (by simp),
    List.filter_eq_self.mpr fun field member => decide_eq_true (others field member),
    List.filter_eq_self.mpr fun stranger member => decide_eq_true (unknown stranger member)] at kept
  exact kept

/-! ## What may be null -/

/-- A value that may be null. -/
def option? {α : Type} (decode : Document → Option α) : Document → Option (Option α)
  | .null => some none
  | document => (decode document).map some

/-- What stands for an optional structure: null in its absence, and an object that shows all of its fields otherwise. -/
def StandsFor {α : Type} (fields : α → List (String × Document)) : Option α → Document → Prop
  | none, document => document = .null
  | some value, document => Revises (fields value) (fun _ => false) document

section
variable {α : Type} {decode : Document → Option α} {document : Document}

theorem Fields.optional_eq_option? {members : String → Option Document} {name : String}
    (found : members name = some document) :
    (Fields.mk false members).optional name decode = document.option? decode := by
  simp only [optional,found]
  cases document <;> rfl

/-- An object is not null. -/
theorem Revises.option? {fields : List (String × Document)} {omitted : String → Bool}
    (revises : Revises fields omitted document) : document.option? decode = (decode document).map some := by
  obtain ⟨shown,_,rfl,_⟩ := revises
  rfl

theorem StandsFor.option? {fields : α → List (String × Document)} {content : Option α}
    (stands : StandsFor fields content document)
    (reads : ∀ value document, Revises (fields value) (fun _ => false) document → decode document = some value) :
    document.option? decode = some content := by
  cases content with
  | none => cases stands; rfl
  | some value =>
    have revises : Revises (fields value) (fun _ => false) document := stands
    rw [revises.option?,reads value document revises]
    rfl

end

end Statechart.Document
