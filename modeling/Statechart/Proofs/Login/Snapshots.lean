import Statechart.Login.Session
import Statechart.Proofs.Fields

/-!
# Snapshots: documents of what a session shows

A snapshot is read back from its text, however its members are arranged and whatever unknown ones stand among them. The
members of an error are gathered before it is known which of them count, so there the unknown ones have to be sound and
not too deep (`View.read?_shown`). An error that lacks the field of its kind is no error
(`Rejection.ofDocument?_revised`), and neither is anything around it a snapshot.
-/
namespace Statechart

/-! ## Constants -/

theorem Status.ofDocument?_toDocument (status : Status) : ofDocument? status.toDocument = some status := by
  cases status <;> rfl

/-! ## Errors -/

namespace Login

open Document (Revises StandsFor)

namespace Rejection

/-- The name of a kind of rejections. -/
def kind : Rejection → String
  | .mfaRequired _ => "mfa_required"
  | .rejected _ => "rejected"
  | .network _ => "network"

/-- The field that a kind of rejections has. -/
def field : Rejection → String
  | .mfaRequired _ => "message"
  | .rejected _ => "reason"
  | .network _ => "message"

/-- What stands in that field. -/
def detail : Rejection → String
  | .mfaRequired message => message
  | .rejected reason => reason
  | .network message => message

/-- A rejection of the same kind with something else in its field. -/
def withDetail : Rejection → String → Rejection
  | .mfaRequired _ => .mfaRequired
  | .rejected _ => .rejected
  | .network _ => .network

theorem withDetail_detail (rejection : Rejection) : rejection.withDetail rejection.detail = rejection := by
  cases rejection <;> rfl

def fields (rejection : Rejection) : List (String × Document) :=
  [("kind",.ofString rejection.kind),(rejection.field,.ofString rejection.detail)]

theorem toDocument_eq (rejection : Rejection) : rejection.toDocument = .ofFields rejection.fields := by
  cases rejection <;> rfl

theorem fields_distinct (rejection : Rejection) : (rejection.fields.map Prod.fst).Nodup := by
  cases rejection <;> simp [fields,field]

/-- The kind says which field is looked for, and what is made of it. -/
theorem variant?_kind (rejection : Rejection) :
    variant? rejection.kind = some (rejection.field,rejection.withDetail) := by
  cases rejection <;> rfl

/-- The members of an error, which stands inside so many lists and objects, can be gathered. -/
def Gathers (enclosing : Nat) (error : Document) : Prop :=
  error.isSound = true ∧ enclosing + error.depth ≤ maxDepth

instance (enclosing : Nat) (error : Document) : Decidable (Gathers enclosing error) :=
  inferInstanceAs (Decidable (_ ∧ _))

theorem split?_shown {shown : List (String × Document)} {kind : Document}
    (only : shown.filter (fun field => field.1 = "kind") = [("kind",kind)]) :
    split? (.ofFields shown) = some (kind,.ofFields (shown.filter fun field => field.1 ≠ "kind")) := by
  have told : ((fun entry : Option String × Document => decide (entry.1 = some "kind")) ∘
      fun field : String × Document => (some field.1,field.2)) = fun field => decide (field.1 = "kind") := by
    funext field
    simp
  have others : ((not ∘ fun entry : Option String × Document => decide (entry.1 = some "kind")) ∘
      fun field : String × Document => (some field.1,field.2)) = fun field => decide (field.1 ≠ "kind") := by
    funext field
    simp
  rw [Document.ofFields,split?,List.partition_eq_filter_filter,List.filter_map,List.filter_map,told,others,only]
  rfl

/-- Once the kind of a rejection has been told, the rest of the document is read as its field. -/
theorem ofDocument?_of_split {rejection : Rejection} {error others : Document}
    (splits : split? error = some (.ofString rejection.kind,others)) (enclosing : Nat) :
    ofDocument? enclosing error =
      if Gathers enclosing others then
        (others.fields? [rejection.field]).bind fun found =>
          (found.required rejection.field Document.string?).map rejection.withDetail
      else none := by
  have refused : (!others.isSound || decide (maxDepth < enclosing + others.depth)) = true ↔
      ¬ Gathers enclosing others := by
    rw [Gathers,not_and_or,Nat.not_le]
    simp
  rw [ofDocument?,splits]
  simp only [Option.bind_eq_bind,Option.bind_some,Document.ofString,refused,rejection.variant?_kind]
  by_cases gathers : Gathers enclosing others
  · rw [if_neg (not_not.mpr gathers),if_pos gathers]
    congr 1
    funext found
    cases found.required rejection.field Document.string? <;> rfl
  · rw [if_pos gathers,if_neg gathers]

/-- An object that shows the kind of a rejection among strangers, in any order, is read as the rejection if its field is
there, too, and all of its members can be gathered. -/
theorem ofDocument?_revised {rejection : Rejection} {omitted : String → Bool} {error : Document}
    (revises : Revises rejection.fields omitted error) (told : omitted "kind" = false) (enclosing : Nat) :
    ofDocument? enclosing error =
      if Gathers enclosing error ∧ omitted rejection.field = false then some rejection else none := by
  obtain ⟨shown,strangers,rfl,perm,strange⟩ := revises
  have only : shown.filter (fun field => field.1 = "kind") = [("kind",.ofString rejection.kind)] := by
    rw [Document.filter_shown rejection.fields_distinct perm strange (by simp [fields]),told]
    rfl
  -- The kind is a plain text, so it does not matter that it is not among what is gathered.
  have flat : ∀ field ∈ shown, decide (field.1 ≠ "kind") = false → field.2.isSound = true ∧ field.2.depth = 0 := by
    intro field member same
    have among : field ∈ shown.filter fun field => field.1 = "kind" :=
      List.mem_filter.mpr ⟨member,by simpa using same⟩
    rw [only,List.mem_singleton] at among
    rw [among]
    exact ⟨rfl,rfl⟩
  obtain ⟨sound,deep⟩ := Document.shape_filter flat
  obtain ⟨found,others,shows⟩ := (Document.revises_filter rejection.fields_distinct perm strange).fields? (by simp)
  have names : Document.fields? [rejection.field] (.ofFields (shown.filter fun field => field.1 ≠ "kind")) =
    some ⟨false,found⟩ := others
  have own := shows rejection.field (by simp)
  have same : Gathers enclosing (.ofFields (shown.filter fun field => field.1 ≠ "kind")) =
      Gathers enclosing (.ofFields shown) := by
    rw [Gathers,sound,deep]
    rfl
  rw [ofDocument?_of_split (split?_shown only),names,Option.bind_some]
  simp only [same]
  cases left : omitted rejection.field with
  | true =>
    rw [left] at own
    simp [Document.Fields.required,own]
  | false =>
    rw [left] at own
    have value := Document.Fields.required_eq (own.trans (by simp)) (Document.string?_ofString rejection.detail)
    simp [value,withDetail_detail]

/-- Where an error may be missing, what stands for it is read as what it is, if it can be gathered. -/
theorem option?_of_standsFor {content : Option Rejection} {error : Document}
    (stands : StandsFor fields content error) {enclosing : Nat} (shallow : enclosing ≤ maxDepth) :
    error.option? (ofDocument? enclosing) = if Gathers enclosing error then some content else none := by
  cases content with
  | none =>
    cases stands
    exact (if_pos ⟨rfl,shallow⟩).symm
  | some rejection =>
    have revises : Revises rejection.fields (fun _ => false) error := stands
    rw [revises.option?,ofDocument?_revised revises rfl]
    by_cases gathers : Gathers enclosing error <;> simp [gathers]

end Rejection

/-! ## Accounts and snapshots -/

def Identity.fields (identity : Identity) : List (String × Document) := [("name",.ofString identity.name)]

/-- The fields of an account, given what stands for its user and for its error. -/
def Account.fields (account : Account) (user error : Document) : List (String × Document) :=
  [("status",account.standing.toDocument),("is_loading",.bool account.isLoading),("user",user),("error",error)]

theorem Identity.ofDocument?_revised (identity : Identity) (document : Document)
    (revises : Revises identity.fields (fun _ => false) document) : ofDocument? document = some identity := by
  obtain ⟨found,fields,shows⟩ := revises.fields? (by simp [Identity.fields])
  have names : document.fields? ["name"] = some ⟨false,found⟩ := fields
  have name : Document.Fields.required ⟨false,found⟩ "name" Document.string? = some identity.name :=
    Document.Fields.required_eq (shows "name" (by simp [Identity.fields])) rfl
  simp [ofDocument?,names,name]

theorem Standing.ofDocument?_toDocument (standing : Standing) : ofDocument? standing.toDocument = some standing := by
  cases standing <;> rfl

/-- An account is read with whatever is read of its error. -/
theorem Account.ofDocument?_revised {account : Account} {user error document : Document}
    (stands : StandsFor Identity.fields account.user user)
    (revises : Revises (account.fields user error) (fun _ => false) document) (enclosing : Nat) :
    ofDocument? enclosing document =
      (error.option? (Rejection.ofDocument? (enclosing + 1))).map fun error => { account with error } := by
  obtain ⟨found,fields,shows⟩ := revises.fields? (by simp [Account.fields])
  have names : document.fields? ["status","is_loading","user","error"] = some ⟨false,found⟩ := fields
  have standing : Document.Fields.required ⟨false,found⟩ "status" Standing.ofDocument? = some account.standing :=
    Document.Fields.required_eq (shows "status" (by simp [Account.fields])) account.standing.ofDocument?_toDocument
  have isLoading : Document.Fields.required ⟨false,found⟩ "is_loading" Document.bool? = some account.isLoading :=
    Document.Fields.required_eq (shows "is_loading" (by simp [Account.fields])) rfl
  have someone : Document.Fields.optional ⟨false,found⟩ "user" Identity.ofDocument? = some account.user :=
    (Document.Fields.optional_eq_option? (shows "user" (by simp [Account.fields]))).trans
      (stands.option? Identity.ofDocument?_revised)
  have problem : Document.Fields.optional ⟨false,found⟩ "error" (Rejection.ofDocument? (enclosing + 1)) =
      error.option? (Rejection.ofDocument? (enclosing + 1)) :=
    Document.Fields.optional_eq_option? (shows "error" (by simp [Account.fields]))
  simp only [ofDocument?,names,standing,isLoading,someone,problem,Option.bind_eq_bind,Option.bind_some]
  cases error.option? (Rejection.ofDocument? (enclosing + 1)) <;> rfl

namespace View

/-- What is written of a snapshot. -/
def document (view : View) : Document := view.toDocument (.ofConstant State.name) Account.toDocument

/-- The snapshot of a document. -/
def ofDocument? (document : Document) : Option View :=
  Snapshot.ofDocument? (Document.constantOf? State.ofName?) (Account.ofDocument? 1) document

/-- The snapshot that a text is the written form of. -/
def read? (text : String) : Option View := (Document.read? text).bind ofDocument?

/-- The fields of a snapshot, given what stands for its context. -/
def fields (view : View) (context : Document) : List (String × Document) :=
  [("state",.ofConstant State.name view.state),("context",context),("status",view.status.toDocument)]

/-- A document shows a snapshot, with something in the place of its error: it has all the fields, and those of the
objects inside, in any order and among strangers. -/
def Shown (view : View) (error document : Document) : Prop :=
  ∃ user context, StandsFor Identity.fields view.context.user user ∧
    Revises (view.context.fields user error) (fun _ => false) context ∧
    Revises (view.fields context) (fun _ => false) document

theorem constantOf?_name (state : State) :
    (Document.ofConstant State.name state).constantOf? State.ofName? = some state := by
  cases state <;> rfl

/-- A snapshot is read with whatever is read of its error. -/
theorem ofDocument?_shown {view : View} {error document : Document} (shown : view.Shown error document) :
    ofDocument? document = (error.option? (Rejection.ofDocument? 2)).map fun error =>
      { view with context := { view.context with error } } := by
  obtain ⟨user,context,stands,inner,outer⟩ := shown
  obtain ⟨found,fields,shows⟩ := outer.fields? (by simp [View.fields])
  have names : document.fields? ["state","context","status"] = some ⟨false,found⟩ := fields
  have state : Document.Fields.required ⟨false,found⟩ "state" (Document.constantOf? State.ofName?) = some view.state :=
    Document.Fields.required_eq (shows "state" (by simp [View.fields])) (constantOf?_name view.state)
  have account : Document.Fields.required ⟨false,found⟩ "context" (Account.ofDocument? 1) =
      (error.option? (Rejection.ofDocument? 2)).map fun error => { view.context with error } := by
    have present : found "context" = some context := shows "context" (by simp [View.fields])
    simp only [Document.Fields.required,present]
    exact Account.ofDocument?_revised stands inner 1
  have status : Document.Fields.required ⟨false,found⟩ "status" Status.ofDocument? = some view.status :=
    Document.Fields.required_eq (shows "status" (by simp [View.fields])) view.status.ofDocument?_toDocument
  simp only [ofDocument?,Snapshot.ofDocument?,names,state,account,Option.bind_eq_bind,Option.bind_some]
  cases error.option? (Rejection.ofDocument? 2) with
  | none => rfl
  | some error => simp only [Option.map_some,Option.bind_some,status]; rfl

/-- With all the fields of its error, a snapshot is read if the members of the error can be gathered. -/
theorem read?_shown {view : View} {error document : Document} {text : String}
    (stands : StandsFor Rejection.fields view.context.error error) (shown : view.Shown error document)
    (written : document.Written text) : read? text = if Rejection.Gathers 2 error then some view else none := by
  rw [read?,Document.read?_of_written written,Option.bind_some,ofDocument?_shown shown,
    Rejection.option?_of_standsFor stands (by decide)]
  by_cases gathers : Rejection.Gathers 2 error <;> simp [gathers]

/-- Without the field of its kind, an error is none. -/
theorem read?_of_omitted {view : View} {rejection : Rejection} {error document : Document} {text : String}
    (lacks : Revises rejection.fields (fun name => name = rejection.field) error) (shown : view.Shown error document)
    (written : document.Written text) : read? text = none := by
  have told : decide ("kind" = rejection.field) = false := by cases rejection <;> rfl
  rw [read?,Document.read?_of_written written,Option.bind_some,ofDocument?_shown shown,lacks.option?,
    Rejection.ofDocument?_revised lacks told]
  simp

/-! ## What is written of a snapshot -/

theorem standsFor_toDocument (error : Option Rejection) :
    StandsFor Rejection.fields error (.ofOption Rejection.toDocument error) := by
  cases error with
  | none => rfl
  | some rejection =>
    rw [Document.ofOption,rejection.toDocument_eq]
    exact .all rejection.fields

theorem gathers_toDocument (error : Option Rejection) :
    Rejection.Gathers 2 (.ofOption Rejection.toDocument error) := by
  cases error with
  | none => decide
  | some rejection => cases rejection <;> exact ⟨rfl,(by decide : 3 ≤ Rejection.maxDepth)⟩

theorem shown_document (view : View) :
    view.Shown (.ofOption Rejection.toDocument view.context.error) view.document := by
  refine ⟨.ofOption Identity.toDocument view.context.user,view.context.toDocument,?_,.all _,.all _⟩
  cases view.context.user with
  | none => rfl
  | some identity => exact .all identity.fields

theorem document_proper (view : View) : view.document.Proper := by
  have text : ∀ value, (Document.ofString value).Proper := fun _ => trivial
  have user : (Document.ofOption Identity.toDocument view.context.user).Proper :=
    Document.proper_ofOption (fun identity => by simp [Identity.toDocument,Document.proper_ofFields,text]) _
  have error : (Document.ofOption Rejection.toDocument view.context.error).Proper :=
    Document.proper_ofOption (fun rejection => by
      simp [rejection.toDocument_eq,Rejection.fields,Document.proper_ofFields,text]) _
  have context : view.context.toDocument.Proper := by
    rw [Account.toDocument,Document.proper_ofFields]
    simp [Standing.toDocument,Document.ofConstant,text,Document.Proper,user,error]
  rw [document,Snapshot.toDocument,Document.proper_ofFields]
  simp [Status.toDocument,Document.ofConstant,text,context]

/-- A snapshot is read back from its text. -/
theorem read?_render (view : View) : read? view.document.render = some view := by
  rw [read?_shown (standsFor_toDocument _) view.shown_document (Document.written_render view.document_proper),
    if_pos (gathers_toDocument _)]

theorem render_injective {view other : View} (same : view.document.render = other.document.render) : view = other := by
  have reads := view.read?_render
  rw [same,other.read?_render] at reads
  exact (Option.some.inj reads).symm

/-- The kind of one rejection is paired with the field of another kind. -/
theorem revises_mispaired {rejection other : Rejection} (different : rejection.field ≠ other.field) :
    Revises rejection.fields (fun name => name = rejection.field)
      (.ofFields [("kind",.ofString rejection.kind),(other.field,.ofString other.detail)]) := by
  refine ⟨_,[(other.field,.ofString other.detail)],rfl,.of_eq ?_,?_⟩
  · have told : "kind" ≠ rejection.field := by cases rejection <;> simp [Rejection.field]
    simp [Rejection.fields,told]
  · have told : other.field ≠ "kind" := by cases other <;> simp [Rejection.field]
    simp [Rejection.fields,told,Ne.symm different]

/-- A snapshot is read back from its text, so different ones have different texts. It is also read if the members of its
objects are in another order, the kind of its error among them, and unknown ones are added, as long as those that are
added to the error can be gathered; otherwise nothing is read. And nothing is read if the error lacks the field of its
kind, as it does where it has that of another kind instead. -/
theorem snapshot_documents :
    (∀ view : View, read? view.document.render = some view) ∧
    (∀ view other : View, view.document.render = other.document.render → view = other) ∧
    (∀ (view : View) (error document : Document) (text : String),
      StandsFor Rejection.fields view.context.error error → view.Shown error document → document.Written text →
        read? text = if Rejection.Gathers 2 error then some view else none) ∧
    (∀ (view : View) (rejection : Rejection) (error document : Document) (text : String),
      Revises rejection.fields (fun name => name = rejection.field) error → view.Shown error document →
        document.Written text → read? text = none) ∧
    ∀ rejection other : Rejection, rejection.field ≠ other.field →
      Revises rejection.fields (fun name => name = rejection.field)
        (.ofFields [("kind",.ofString rejection.kind),(other.field,.ofString other.detail)]) :=
  ⟨read?_render,fun _ _ => render_injective,fun _ _ _ _ => read?_shown,fun _ _ _ _ _ => read?_of_omitted,
    fun _ _ => revises_mispaired⟩

/-- Somebody is asked for a code. -/
def challenged : View := ⟨.unauthenticated,{ error := some (.mfaRequired "code") },.running⟩

/-- The error with an unknown member in front and its kind at the end. -/
def challengedError (unknown : Document) : Document :=
  .ofFields [("attempts",unknown),("message",.ofString "code"),("kind",.ofString "mfa_required")]

/-- The snapshot from its end to its beginning, with something in the place of its error. -/
def challengedDocument (error : Document) : Document :=
  .ofFields [("status",.ofString "Running"),("context",.ofFields [("error",error),("user",.null),
    ("is_loading",.bool false),("status",.ofString "unauthenticated")]),("state",.ofString "Unauthenticated")]

theorem challengedError_standsFor (unknown : Document) :
    StandsFor Rejection.fields challenged.context.error (challengedError unknown) :=
  ⟨_,[("attempts",unknown)],rfl,List.reverse_perm [_,_,_],by simp [Rejection.fields,Rejection.field]⟩

theorem challengedDocument_shown (error : Document) : challenged.Shown error (challengedDocument error) :=
  ⟨.null,_,rfl,⟨_,[],rfl,List.reverse_perm [_,_,_,_],nofun⟩,⟨_,[],rfl,List.reverse_perm [_,_,_],nofun⟩⟩

theorem challengedDocument_written {error : Document} (proper : error.Proper) :
    (challengedDocument error).Written (challengedDocument error).render := by
  apply Document.written_render
  rw [challengedDocument,Document.proper_ofFields]
  simp [Document.proper_ofFields,Document.ofString,Document.Proper,proper]

/-- Three attempts may be noted in the error; but no kind goes with the field of another. -/
theorem challenged_snapshot_documents :
    read? (challengedDocument (challengedError (.ofUInt64 3))).render = some challenged ∧
    read? (challengedDocument (.ofFields [("kind",.ofString "rejected"),("message",.ofString "code")])).render =
      none := by
  obtain ⟨_,_,reads,refuses,mispaired⟩ := snapshot_documents
  constructor
  · have proper : (challengedError (.ofUInt64 3)).Proper := by
      simp [challengedError,Document.proper_ofFields,Document.ofString,Document.Proper,Document.proper_ofUInt64]
    have read := reads challenged _ _ _ (challengedError_standsFor _) (challengedDocument_shown _)
      (challengedDocument_written proper)
    rwa [if_pos (by decide +kernel)] at read
  · have lacks := mispaired (.rejected "") (.mfaRequired "code") (by decide)
    have proper : (Document.ofFields [("kind",.ofString "rejected"),("message",.ofString "code")]).Proper := by
      simp [Document.proper_ofFields,Document.ofString,Document.Proper]
    exact refuses challenged _ _ _ _ lacks (challengedDocument_shown _) (challengedDocument_written proper)

/-- The error notes more attempts than any double can count. -/
def overflowing : Document := challengedError (.number ⟨false,1,[],some 999⟩)

def overflowingText : String :=
  "\x7b\"status\":\"Running\",\"context\":\x7b\"error\":\x7b\"attempts\":1e999,\"message\":\"code\"," ++
    "\"kind\":\"mfa_required\"\x7d,\"user\":null,\"is_loading\":false,\"status\":\"unauthenticated\"\x7d," ++
    "\"state\":\"Unauthenticated\"\x7d"

/-- The unknown member of its error keeps the whole snapshot from being read. -/
theorem overflowing_unread :
    StandsFor Rejection.fields challenged.context.error overflowing ∧
    challenged.Shown overflowing (challengedDocument overflowing) ∧
    (challengedDocument overflowing).Written overflowingText ∧ read? overflowingText = none := by
  have stands : StandsFor Rejection.fields challenged.context.error overflowing := challengedError_standsFor _
  have shown := challengedDocument_shown overflowing
  have proper : overflowing.Proper := by
    simp [overflowing,challengedError,Document.proper_ofFields,Document.ofString,Document.Proper]
  have text : (challengedDocument overflowing).render = overflowingText := by decide +kernel
  have written : (challengedDocument overflowing).Written overflowingText := text ▸ challengedDocument_written proper
  refine ⟨stands,shown,written,?_⟩
  rw [read?_shown stands shown written,if_neg (by decide +kernel)]

end View

end Login

end Statechart
