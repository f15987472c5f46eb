import Mathlib.Data.List.TakeWhile
import Statechart.Login.Settings
import Statechart.Proofs.Fields

/-!
# Configurations: settings read from partial documents

A document of settings may lack any of its members and those of the objects inside, have them in any order, and have
members besides that mean nothing. It is read as the settings with the usual values where something is missing, if these
settings make sense, and refused for the first of them that does not (`Settings.configuration_documents`).
-/
namespace Statechart

/-! ## Blank texts -/

/-- A text without the blank characters at both of its ends. -/
def Text.trimmed (text : String) : List Char := (skipBlank (skipBlank text.toList).reverse).reverse

theorem Text.trimmed_eq_nil_iff (text : String) : trimmed text = [] ↔ isBlankText text = true := by
  rw [trimmed,isBlankText,List.reverse_eq_nil_iff,skipBlank,List.dropWhile_eq_nil_iff,List.all_eq_true]
  constructor
  · intro blank c member
    rw [← List.takeWhile_append_dropWhile (p := isBlank) (l := text.toList)] at member
    rcases List.mem_append.mp member with skipped | left
    · exact List.mem_takeWhile_imp skipped
    · exact blank c (List.mem_reverse.mpr left)
  · intro blank c member
    exact blank c (List.dropWhile_subset _ (List.mem_reverse.mp member))

/-! ## What is written of settings -/

def Options.fields (options : Options) : List (String × Document) :=
  [("max_microsteps",.ofUInt64 options.maxMicrosteps),("history_limit",.ofUInt64 options.historyLimit)]

namespace Login

def Credentials.fields (credentials : Credentials) : List (String × Document) :=
  [("user_name",.ofString credentials.userName),("password",.ofString credentials.password)]

/-- The fields of settings, given what stands for the two structures inside. -/
def Settings.fields (settings : Settings) (credentials interpreter : Document) : List (String × Document) :=
  [("machine_id",.ofString settings.machineId),("credentials",credentials),
    ("renew_interval_ms",.ofOption .ofUInt64 settings.renewInterval),
    ("store_path",.ofOption .ofString settings.storePath),("interpreter",interpreter)]

/-! ## What is left out -/

/-- Which members are left out of the document of settings and of the two objects inside. -/
structure Omission where
  settings : String → Bool
  credentials : String → Bool
  interpreter : String → Bool

/-- Nothing is left out. -/
def Omission.nothing : Omission := ⟨fun _ => false,fun _ => false,fun _ => false⟩

end Login

/-- The options with the usual values for what is left out. -/
def Options.without (options : Options) (omitted : String → Bool) : Options :=
  let usual : Options := {}
  { maxMicrosteps := if omitted "max_microsteps" then usual.maxMicrosteps else options.maxMicrosteps
    historyLimit := if omitted "history_limit" then usual.historyLimit else options.historyLimit }

namespace Login

/-- The credentials with the usual values for what is left out. -/
def Credentials.without (credentials : Credentials) (omitted : String → Bool) : Credentials :=
  let usual : Credentials := {}
  { userName := if omitted "user_name" then usual.userName else credentials.userName
    password := if omitted "password" then usual.password else credentials.password }

namespace Settings

/-- The settings with the usual values for what is left out. -/
def without (settings : Settings) (omission : Omission) : Settings :=
  let usual : Settings := {}
  { machineId := if omission.settings "machine_id" then usual.machineId else settings.machineId
    credentials :=
      if omission.settings "credentials" then usual.credentials
      else settings.credentials.without omission.credentials
    renewInterval := if omission.settings "renew_interval_ms" then usual.renewInterval else settings.renewInterval
    storePath := if omission.settings "store_path" then usual.storePath else settings.storePath
    interpreter :=
      if omission.settings "interpreter" then usual.interpreter
      else settings.interpreter.without omission.interpreter }

/-- A document of settings in which members have been left out, put into another order and joined by unknown ones, in
the object itself and in those inside. -/
def Edited (settings : Settings) (omission : Omission) (document : Document) : Prop :=
  ∃ credentials interpreter,
    Document.Revises settings.credentials.fields omission.credentials credentials ∧
    Document.Revises settings.interpreter.fields omission.interpreter interpreter ∧
    Document.Revises (settings.fields credentials interpreter) omission.settings document

theorem edited_toDocument (settings : Settings) : settings.Edited .nothing settings.toDocument :=
  ⟨_,_,.all _,.all _,.all _⟩

theorem without_nothing (settings : Settings) : settings.without .nothing = settings := rfl

end Settings

/-! ## Reading -/

theorem Credentials.ofDocument?_revised {credentials : Credentials} {omitted : String → Bool} {document : Document}
    (revises : Document.Revises credentials.fields omitted document) :
    ofDocument? document = some (credentials.without omitted) := by
  obtain ⟨found,fields,shows⟩ := revises.fields? (by simp [Credentials.fields])
  have names : document.fields? ["user_name","password"] = some ⟨false,found⟩ := fields
  have userName := Document.Fields.defaulted_eq (shows "user_name" (by simp [Credentials.fields]))
    (Document.string?_ofString credentials.userName)
  have password := Document.Fields.defaulted_eq (shows "password" (by simp [Credentials.fields]))
    (Document.string?_ofString credentials.password)
  simp [ofDocument?,names,userName,password,without]

end Login

theorem Options.ofDocument?_revised {options : Options} {omitted : String → Bool} {document : Document}
    (revises : Document.Revises options.fields omitted document) :
    ofDocument? document = some (options.without omitted) := by
  obtain ⟨found,fields,shows⟩ := revises.fields? (by simp [Options.fields])
  have names : document.fields? ["max_microsteps","history_limit"] = some ⟨false,found⟩ := fields
  have maxMicrosteps := Document.Fields.defaulted_eq (shows "max_microsteps" (by simp [Options.fields]))
    (Document.natural?_ofUInt64 options.maxMicrosteps)
  have historyLimit := Document.Fields.defaulted_eq (shows "history_limit" (by simp [Options.fields]))
    (Document.natural?_ofUInt64 options.historyLimit)
  simp [ofDocument?,names,maxMicrosteps,historyLimit,without]

namespace Login.Settings

theorem ofDocument?_edited {settings : Settings} {omission : Omission} {document : Document}
    (edited : settings.Edited omission document) : ofDocument? document = some (settings.without omission) := by
  obtain ⟨credentialsPart,interpreterPart,someCredentials,someInterpreter,revises⟩ := edited
  obtain ⟨found,fields,shows⟩ := revises.fields? (by simp [Settings.fields])
  have names : document.fields? ["machine_id","credentials","renew_interval_ms","store_path","interpreter"] =
    some ⟨false,found⟩ := fields
  have machineId := Document.Fields.defaulted_eq (shows "machine_id" (by simp [Settings.fields]))
    (Document.string?_ofString settings.machineId)
  have credentials := Document.Fields.defaulted_eq (shows "credentials" (by simp [Settings.fields]))
    (Credentials.ofDocument?_revised someCredentials)
  have renewInterval := Document.Fields.nullable_eq (shows "renew_interval_ms" (by simp [Settings.fields]))
    Document.natural?_ofUInt64 Document.ofUInt64_ne_null
  have storePath := Document.Fields.nullable_eq (shows "store_path" (by simp [Settings.fields]))
    Document.string?_ofString Document.ofString_ne_null
  have interpreter := Document.Fields.defaulted_eq (shows "interpreter" (by simp [Settings.fields]))
    (Options.ofDocument?_revised someInterpreter)
  simp [ofDocument?,names,machineId,credentials,renewInterval,storePath,interpreter,without]

end Login.Settings

/-! ## Judging -/

namespace Login

/-- The errors in the order in which they are looked for. -/
def SettingsError.inOrder : List SettingsError := [.blankMachineId,.zeroRenewInterval,.zeroMicrosteps]

namespace Settings

/-- When settings have an error. -/
def Offends (settings : Settings) : SettingsError → Prop
  | .blankMachineId => Text.trimmed settings.machineId = []
  | .zeroRenewInterval => settings.renewInterval = some 0
  | .zeroMicrosteps => settings.interpreter.maxMicrosteps = 0

/-- What has to come of settings: they are accepted if they have no error, and refused for the first one otherwise. -/
inductive Judged (settings : Settings) : Except SettingsFailure Settings → Prop where
  | accepted (sensible : ∀ error, ¬ settings.Offends error) : Judged settings (.ok settings)
  | refused {error : SettingsError} {before after : List SettingsError}
      (order : SettingsError.inOrder = before ++ error :: after) (offends : settings.Offends error)
      (spared : ∀ earlier ∈ before, ¬ settings.Offends earlier) : Judged settings (.error (.invalid error))

/-- Settings that have been read are judged by their first error. -/
theorem judged_problem? (settings : Settings) :
    settings.Judged (match settings.problem? with
      | none => .ok settings
      | some error => .error (.invalid error)) := by
  rw [problem?]
  by_cases blank : Text.isBlankText settings.machineId = true
  · have offends : settings.Offends .blankMachineId := (Text.trimmed_eq_nil_iff _).mpr blank
    have first : SettingsError.inOrder = [] ++ .blankMachineId :: [.zeroRenewInterval,.zeroMicrosteps] := rfl
    rw [if_pos blank]
    exact .refused first offends (by simp)
  · have named : ¬ settings.Offends .blankMachineId := fun offends => blank ((Text.trimmed_eq_nil_iff _).mp offends)
    rw [if_neg blank]
    by_cases never : settings.renewInterval = some 0
    · have second : SettingsError.inOrder = [.blankMachineId] ++ .zeroRenewInterval :: [.zeroMicrosteps] := rfl
      rw [if_pos never]
      exact .refused second never (by simpa using named)
    · rw [if_neg never]
      by_cases still : settings.interpreter.maxMicrosteps = 0
      · have last : SettingsError.inOrder = [.blankMachineId,.zeroRenewInterval] ++ .zeroMicrosteps :: [] := rfl
        rw [if_pos still]
        exact .refused last still (by simpa using ⟨named,never⟩)
      · rw [if_neg still]
        apply Judged.accepted
        rintro (_ | _ | _)
        · exact named
        · exact never
        · exact still

theorem read_of_document {text : String} {document : Document} {settings : Settings}
    (reads : Document.read? text = some document) (decodes : ofDocument? document = some settings) :
    read text = match settings.problem? with
      | none => .ok settings
      | some error => .error (.invalid error) := by
  have found : (Document.read? text).bind ofDocument? = some settings := by
    rw [reads]
    exact decodes
  rw [read]
  generalize (Document.read? text).bind ofDocument? = outcome at found ⊢
  subst found
  rfl

/-- Only settings without an error are ever read. -/
theorem problem?_of_read {text : String} {settings : Settings} (reads : read text = .ok settings) :
    settings.problem? = none := by
  rw [read] at reads
  split at reads
  · cases reads
  · split at reads
    · cases reads
      assumption
    · cases reads

/-- What is written of settings is a document that can be read. -/
theorem toDocument_proper (settings : Settings) : settings.toDocument.Proper := by
  have credentials : settings.credentials.toDocument.Proper := by
    rw [Credentials.toDocument,Document.proper_ofFields]
    simp [Document.ofString,Document.Proper]
  have interpreter : settings.interpreter.toDocument.Proper := by
    rw [Options.toDocument,Document.proper_ofFields]
    simp [Document.proper_ofUInt64]
  have renewInterval := Document.proper_ofOption Document.proper_ofUInt64 settings.renewInterval
  have storePath : (Document.ofOption Document.ofString settings.storePath).Proper :=
    Document.proper_ofOption (fun path => show (Document.ofString path).Proper from trivial) settings.storePath
  rw [toDocument,Document.proper_ofFields]
  simp [Document.ofString,Document.Proper,credentials,interpreter,renewInterval,storePath]

/-- Of an edited document, the settings with what is left out as usual are judged. -/
theorem judged_of_edited {settings : Settings} {omission : Omission} {document : Document} {text : String}
    (edited : settings.Edited omission document) (written : document.Written text) :
    (settings.without omission).Judged (read text) ∧
      (read text = .ok (settings.without omission) ↔ (settings.without omission).problem? = none) := by
  have reads := read_of_document (Document.read?_of_written written) (ofDocument?_edited edited)
  rw [reads]
  refine ⟨judged_problem? _,?_⟩
  cases (settings.without omission).problem? <;> simp

/-- The text of settings can be read back if they make sense. -/
theorem read_render {settings : Settings} (sensible : settings.problem? = none) :
    read settings.toDocument.render = .ok settings := by
  have judged := judged_of_edited settings.edited_toDocument (Document.written_render settings.toDocument_proper)
  rw [without_nothing] at judged
  exact judged.2.mpr sensible

/-- A document of settings may lack members, have them in another order and have unknown ones, at any level. In
whatever way it is written, it is read as the settings with the usual values for what is missing exactly if these make
sense, and refused for the first of the machine, the interval and the limit that does not. In particular, settings that
make sense are read back from their own text, and all settings that are ever read make sense. -/
theorem configuration_documents :
    SettingsError.inOrder.map SettingsError.field = ["machine_id","renew_interval_ms","interpreter.max_microsteps"] ∧
    (∀ settings : Settings, settings.toDocument.Written settings.toDocument.render ∧
      settings.Edited .nothing settings.toDocument) ∧
    (∀ (settings : Settings) (omission : Omission) (document : Document) (text : String),
      settings.Edited omission document → document.Written text →
      (settings.without omission).Judged (read text) ∧
        (read text = .ok (settings.without omission) ↔ (settings.without omission).problem? = none)) ∧
    (∀ settings : Settings, settings.problem? = none → read settings.toDocument.render = .ok settings) ∧
    ∀ (text : String) (settings : Settings), read text = .ok settings → settings.problem? = none :=
  ⟨rfl,fun settings => ⟨Document.written_render settings.toDocument_proper,settings.edited_toDocument⟩,
    fun _ _ _ _ edited written => judged_of_edited edited written,fun _ sensible => read_render sensible,
    fun _ _ reads => problem?_of_read reads⟩

/-- Settings of which nothing makes sense. -/
def draft : Settings := { machineId := " ", renewInterval := some 0, interpreter := { maxMicrosteps := 0 } }

/-- The name of the machine is left out, and the limit of the interpreter. -/
def draftOmission : Omission where
  settings := (· == "machine_id")
  credentials := fun _ => false
  interpreter := (· == "max_microsteps")

/-- What is left of the draft, from its end to its beginning behind a comment. -/
def draftDocument : Document :=
  .ofFields [("comment",.list []),("interpreter",.ofFields [("history_limit",.ofUInt64 128)]),("store_path",.null),
    ("renew_interval_ms",.ofUInt64 0),("credentials",draft.credentials.toDocument)]

theorem draft_edited : draft.Edited draftOmission draftDocument := by
  refine ⟨_,_,.all _,⟨[("history_limit",.ofUInt64 128)],[],rfl,?_,nofun⟩,
    ⟨_,[("comment",.list [])],rfl,?_,by simp [fields]⟩⟩
  · simp [Options.fields,draftOmission,draft]
  · have left : ∀ credentials interpreter, (draft.fields credentials interpreter).filter
        (fun field => !draftOmission.settings field.1) = [("credentials",credentials),
          ("renew_interval_ms",.ofUInt64 0),("store_path",.null),("interpreter",interpreter)] := by
      simp [fields,draftOmission,draft,Document.ofOption]
    rw [left]
    exact List.reverse_perm [("credentials",_),("renew_interval_ms",_),("store_path",_),("interpreter",_),("comment",_)]

/-- Only the interval of the draft is still wrong. -/
theorem draft_configuration_documents : draft.Edited draftOmission draftDocument ∧
    read draftDocument.render = .error (.invalid .zeroRenewInterval) := by
  refine ⟨draft_edited,?_⟩
  have proper : draftDocument.Proper := by
    rw [draftDocument,Document.proper_ofFields]
    simp [Document.proper_ofFields,Document.proper_ofUInt64,Document.Proper,Document.ProperItems,draft,
      Credentials.toDocument,Document.ofString]
  obtain ⟨_,_,judges,_⟩ := configuration_documents
  obtain ⟨judged,_⟩ := judges draft draftOmission draftDocument _ draft_edited (Document.written_render proper)
  generalize read draftDocument.render = outcome at judged ⊢
  cases judged with
  | accepted sensible => exact absurd rfl (sensible .zeroRenewInterval)
  | @refused error before after order offends spared =>
    cases error with
    | blankMachineId => exact absurd ((Text.trimmed_eq_nil_iff _).mp offends) (by decide)
    | zeroRenewInterval => rfl
    | zeroMicrosteps => cases offends

end Settings

end Login

end Statechart
