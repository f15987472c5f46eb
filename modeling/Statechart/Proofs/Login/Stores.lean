import Mathlib.Data.List.Induction
import Statechart.Login.Store
import Statechart.Proofs.Documents

/-!
# Stores: two kinds of them, and no difference to be noticed

A file store writes a document and reads it back, a memory store just keeps the user. To somebody who saves, clears
and loads they are the same, whatever name a user has and whatever was in the file, as long as it stood for nobody
and every write succeeds (`two_stores_agree`).
-/
namespace Statechart.Login

/-! ## Calls -/

/-- A call on a store. -/
inductive StoreCall where
  | save (user : Identity)
  | clear
  | load

/-- What a call on a store returns. -/
inductive StoreReply where
  | loaded (user : Option Identity)
  | written (result : Except StoreError Unit)

/-- A write does not fail. -/
def StoreReply.Succeeds (reply : StoreReply) : Prop := ∀ error, reply ≠ .written (.error error)

/-- Who is kept after some calls: the user of the last save since the last clear, or nobody, if every save has been
followed by a clear. -/
def Remembers (calls : List StoreCall) : Option Identity → Prop
  | some user => ∃ earlier later, calls = earlier ++ .save user :: later ∧
      (∀ other, .save other ∉ later) ∧ .clear ∉ later
  | none => ∀ user earlier later, calls = earlier ++ .save user :: later → .clear ∈ later

namespace Store

def call (store : Store) : StoreCall → StoreReply × Store
  | .save user => (.written (store.save user).1,(store.save user).2)
  | .clear => (.written store.clear.1,store.clear.2)
  | .load => (.loaded store.load.1,store.load.2)

/-- What one call after another returns. -/
def replies (store : Store) : List StoreCall → List StoreReply
  | [] => []
  | call :: rest => (store.call call).1 :: (store.call call).2.replies rest

end Store

/-! ## What is written is read back -/

namespace Identity

theorem ofDocument?_toDocument (identity : Identity) : ofDocument? identity.toDocument = some identity := by
  simp [ofDocument?,toDocument,Document.ofFields,Document.fields?,Document.Fields.required,Document.member?,
    Document.ofString,Document.string?]

end Identity

namespace Store

theorem storedUser?_storedDocument (user : Identity) : storedUser? (storedDocument user) = some user := by
  simp [storedUser?,storedDocument,Document.ofFields,Document.fields?,Document.Fields.required,Document.member?,
    user.ofDocument?_toDocument]

theorem storedDocument_proper (user : Identity) : (storedDocument user).Proper := by
  simp [storedDocument,Identity.toDocument,Document.ofFields,Document.ofString,Document.Proper,Document.ProperMembers]

/-- Whatever a user is called, the content that is written for them stands for them. -/
theorem userOfText?_render (user : Identity) : userOfText? (storedDocument user).render = some user := by
  have solid : Text.isBlankText (storedDocument user).render = false := by
    rw [Text.isBlankText,Document.render,String.toList_ofList,storedDocument,Document.ofFields,Document.print,
      List.cons_append,List.all_cons]
    rfl
  rw [userOfText?,solid,Document.read?_render (storedDocument_proper user)]
  exact storedUser?_storedDocument user

theorem userOfText?_empty : userOfText? "" = none := rfl

end Store

/-! ## What calls return -/

/-- The user that the content of a file stands for, if there is one. -/
def FileSlot.user? (slot : FileSlot) : Option Identity := slot.text?.bind Store.userOfText?

theorem FileSlot.user?_text (content : String) : (FileSlot.text content).user? = Store.userOfText? content := rfl

/-- Who is kept after one more call. -/
def StoreCall.after (kept : Option Identity) : StoreCall → Option Identity
  | .save user => some user
  | .clear => none
  | .load => kept

/-- What a call returns, if a write succeeds. -/
def StoreCall.returns (kept : Option Identity) : StoreCall → StoreReply
  | .load => .loaded kept
  | _ => .written (.ok ())

/-- What calls return, if all writes succeed. -/
def returns (kept : Option Identity) : List StoreCall → List StoreReply
  | [] => []
  | call :: rest => call.returns kept :: returns (call.after kept) rest

namespace Store

variable {path : String} {slot : FileSlot}

theorem replies_memory (user : Option Identity) (loads saves clears : Nat) (calls : List StoreCall) :
    (Store.memory user loads saves clears false).replies calls = returns user calls := by
  induction calls generalizing user loads saves clears with
  | nil => rfl
  | cons call rest ih =>
    cases call with
    | save other => exact congrArg (List.cons _) (ih (some other) loads (saves + 1) clears)
    | clear => exact congrArg (List.cons _) (ih none loads saves (clears + 1))
    | load => exact congrArg (List.cons _) (ih user (loads + 1) saves clears)

/-- A write that succeeds replaces the content of the file. -/
theorem overwrite_eq (content : String) (succeeds : (StoreReply.written (overwrite path slot content).1).Succeeds) :
    overwrite path slot content = (.ok (),.file path (.text content)) := by
  rw [overwrite] at succeeds ⊢
  split
  · rfl
  · rename_i locked
    rw [if_neg locked] at succeeds
    exact absurd rfl (succeeds _)

/-- A call that succeeds returns what it is to return, and then the file stands for whoever is kept now. -/
theorem call_file (call : StoreCall) (succeeds : ((Store.file path slot).call call).1.Succeeds) :
    ∃ later : FileSlot, (Store.file path slot).call call = (call.returns slot.user?,.file path later) ∧
      later.user? = call.after slot.user? := by
  cases call with
  | save user =>
    have written := overwrite_eq (storedDocument user).render succeeds
    exact ⟨.text (storedDocument user).render,by rw [Store.call,save,written]; rfl,
      (FileSlot.user?_text _).trans (userOfText?_render user)⟩
  | clear =>
    have written := overwrite_eq "" succeeds
    exact ⟨.text "",by rw [Store.call,clear,written]; rfl,(FileSlot.user?_text _).trans userOfText?_empty⟩
  | load => exact ⟨slot,rfl,rfl⟩

theorem replies_file (calls : List StoreCall)
    (succeed : ∀ reply ∈ (Store.file path slot).replies calls, reply.Succeeds) :
    (Store.file path slot).replies calls = returns slot.user? calls := by
  induction calls generalizing slot with
  | nil => rfl
  | cons call rest ih =>
    obtain ⟨first,further⟩ := List.forall_mem_cons.mp succeed
    obtain ⟨later,result,kept⟩ := call_file call first
    rw [result] at further
    rw [replies,result,ih further,kept]
    rfl

/-- Where there is a place for a file, every write succeeds. -/
theorem replies_succeed (writable : slot.isWritable = true) (calls : List StoreCall) :
    ∀ reply ∈ (Store.file path slot).replies calls, reply.Succeeds := by
  induction calls generalizing slot with
  | nil => exact nofun
  | cons call rest ih =>
    rw [Store.replies,List.forall_mem_cons]
    cases call with
    | save user =>
      rw [Store.call,Store.save,overwrite,if_pos writable]
      exact ⟨nofun,ih rfl⟩
    | clear =>
      rw [Store.call,Store.clear,overwrite,if_pos writable]
      exact ⟨nofun,ih rfl⟩
    | load => exact ⟨nofun,ih writable⟩

end Store

/-! ## Who is kept -/

theorem returns_append (kept : Option Identity) (calls more : List StoreCall) :
    returns kept (calls ++ more) = returns kept calls ++ returns (calls.foldl StoreCall.after kept) more := by
  induction calls generalizing kept with
  | nil => rfl
  | cons call rest ih => exact congrArg (List.cons _) (ih _)

theorem length_returns (kept : Option Identity) (calls : List StoreCall) :
    (returns kept calls).length = calls.length := by
  induction calls generalizing kept with
  | nil => rfl
  | cons call rest ih => exact congrArg Nat.succ (ih _)

/-- The last call is the one that is looked for, or it comes after that. -/
theorem split_concat {calls earlier later : List StoreCall} {call sought : StoreCall}
    (split : calls ++ [call] = earlier ++ sought :: later) :
    (call = sought ∧ later = []) ∨ ∃ between, later = between ++ [call] ∧ calls = earlier ++ sought :: between := by
  rcases List.eq_nil_or_concat later with rfl | ⟨between,last,rfl⟩
  · exact .inl ⟨by simpa using (List.append_inj' split rfl).2,rfl⟩
  · rw [List.concat_eq_append,← List.cons_append,← List.append_assoc] at split
    obtain ⟨same,last⟩ := List.append_inj' split rfl
    cases last
    exact .inr ⟨between,List.concat_eq_append,same⟩

theorem remembers (calls : List StoreCall) : Remembers calls (calls.foldl StoreCall.after none) := by
  induction calls using List.reverseRecOn with
  | nil =>
    intro user earlier later split
    simp at split
  | append_singleton calls call ih =>
    rw [List.foldl_append]
    cases call with
    | save user => exact ⟨calls,[],rfl,nofun,nofun⟩
    | clear =>
      intro user earlier later split
      rcases split_concat split with ⟨other,_⟩ | ⟨between,rfl,_⟩
      · cases other
      · exact List.mem_append_right _ (List.mem_singleton_self _)
    | load =>
      show Remembers (calls ++ [.load]) (calls.foldl StoreCall.after none)
      generalize calls.foldl StoreCall.after none = kept at ih
      cases kept with
      | some user =>
        obtain ⟨earlier,later,rfl,unsaved,uncleared⟩ := ih
        refine ⟨earlier,later ++ [.load],List.append_assoc _ _ _,?_,?_⟩
        · simpa using unsaved
        · simpa using uncleared
      | none =>
        intro user earlier later split
        rcases split_concat split with ⟨other,_⟩ | ⟨between,rfl,same⟩
        · cases other
        · exact List.mem_append_left _ (ih user earlier between same)

/-! ## Files that stand for nobody -/

/-- There is no user in a file: it is missing or cannot be read, it is blank, or its content is no document of a
user. -/
inductive FileSlot.Vacant : FileSlot → Prop where
  | missing : Vacant .missing
  | unreachable : Vacant .unreachable
  | directory : Vacant .directory
  | blank {content : String} (blank : Text.isBlankText content = true) : Vacant (.text content)
  | undecodable {content : String}
      (spoilt : ∀ document, Document.read? content = some document → Store.storedUser? document = none) :
      Vacant (.text content)
  | garbled (bytes : List UInt8) : Vacant (.garbled bytes)

theorem FileSlot.Vacant.user? {slot : FileSlot} (vacant : slot.Vacant) : slot.user? = none := by
  cases vacant with
  | blank blank => exact if_pos blank
  | @undecodable content spoilt =>
    rw [FileSlot.user?_text,Store.userOfText?]
    split
    · rfl
    · exact Option.bind_eq_none_iff.mpr spoilt
  | _ => rfl

/-- A file store that is begun where there is nobody in the file returns call for call what an empty memory store
returns, if every write succeeds: whoever was saved last, if nobody has been cleared since. -/
theorem two_stores_agree (path : String) {slot : FileSlot} (vacant : slot.Vacant) (calls : List StoreCall)
    (succeed : ∀ reply ∈ (Store.file path slot).replies calls, reply.Succeeds) :
    (Store.file path slot).replies calls = (Store.holding none).replies calls ∧
    ∀ earlier later, calls = earlier ++ .load :: later → ∃ kept, Remembers earlier kept ∧
      ((Store.file path slot).replies calls)[earlier.length]? = some (.loaded kept) := by
  have file := Store.replies_file calls succeed
  rw [vacant.user?] at file
  refine ⟨file.trans (Store.replies_memory none 0 0 0 calls).symm,?_⟩
  rintro earlier later rfl
  refine ⟨_,remembers earlier,?_⟩
  rw [file,returns_append,List.getElem?_append_right (Nat.le_of_eq (length_returns _ _)),length_returns,Nat.sub_self]
  rfl

/-- A file that somebody has scribbled into. -/
def scribble : FileSlot := .text "\x7b not json"

/-- Users come and go, one of them with a name that has to be escaped. -/
def visits : List StoreCall :=
  [.load,.save ⟨"me"⟩,.load,.save ⟨"Zoë \"𝄞\" \\ \t"⟩,.load,.load,.clear,.load,.save ⟨""⟩,.load]

theorem scribble_two_stores_agree :
    scribble.Vacant ∧ (∀ reply ∈ (Store.file "auth.json" scribble).replies visits, reply.Succeeds) ∧
    (Store.file "auth.json" scribble).replies visits =
      [.loaded none,.written (.ok ()),.loaded (some ⟨"me"⟩),.written (.ok ()),.loaded (some ⟨"Zoë \"𝄞\" \\ \t"⟩),
        .loaded (some ⟨"Zoë \"𝄞\" \\ \t"⟩),.written (.ok ()),.loaded none,.written (.ok ()),.loaded (some ⟨""⟩)] := by
  have spoilt : Document.read? "\x7b not json" = none := by decide
  have vacant : scribble.Vacant := .undecodable fun document reads => by rw [spoilt] at reads; cases reads
  have succeed : ∀ reply ∈ (Store.file "auth.json" scribble).replies visits, reply.Succeeds :=
    Store.replies_succeed rfl visits
  obtain ⟨same,_⟩ := two_stores_agree "auth.json" vacant visits succeed
  exact ⟨vacant,succeed,same⟩

end Statechart.Login
