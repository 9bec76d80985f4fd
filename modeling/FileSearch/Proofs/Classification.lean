import FileSearch.File.Tree
import FileSearch.Proofs.Positional
import FileSearch.Proofs.ReadFailure

/-!
# Classifying errors of files

An error of a file is classified by its error number. One without a code of its own is classified by
the numbers its message names, and the message quotes the path: so the path has a say there, but only
through the four names that are looked for (`Thrown.classified_alike`).
-/

namespace FileSearch


-- ---------------------------------------------------------------------------
-- Names in a message
-- ---------------------------------------------------------------------------

namespace Text

/-- A word in capital letters does not reach over anything else. -/
theorem infix_append_append_iff {word before between after : List Char} (hne : word ≠ [])
    (hword : word.all Char.isUpper) (hbefore : before.getLast?.all (!·.isUpper))
    (hafter : after.head?.all (!·.isUpper)) :
    word <:+: before ++ between ++ after ↔
      word <:+: before ∨ word <:+: between ∨ word <:+: after := by
  have hnil : ¬ word <:+: [] := by simpa using hne
  have hnotMem {c : Char} (hc : (!c.isUpper) = true) : c ∉ word := fun h => by
    rw [List.all_eq_true.mp hword c h] at hc
    cases hc
  have hleft (rest : List Char) : word <:+: before ++ rest ↔ word <:+: before ∨ word <:+: rest := by
    rcases List.eq_nil_or_concat' before with rfl | ⟨front, c, rfl⟩
    · simp [hnil]
    · have hc : c ∉ word := hnotMem (by simpa using hbefore)
      rw [List.append_assoc, List.singleton_append, infix_append_cons_iff hc,
        infix_append_cons_iff hc]
      simp [hnil]
  have hright : word <:+: between ++ after ↔ word <:+: between ∨ word <:+: after := by
    cases after with
    | nil => simp [hnil]
    | cons c rest =>
      have hc : c ∉ word := hnotMem (by simpa using hafter)
      have hrest : word <:+: [] ++ c :: rest ↔ word <:+: [] ∨ word <:+: rest :=
        infix_append_cons_iff hc
      rw [infix_append_cons_iff hc, ← List.nil_append (c :: rest), hrest]
      simp [hnil]
  rw [List.append_assoc, hleft, hright]

end Text

namespace ErrorCode

theorem occursIn_iff {part whole : List Char} : occursIn part whole ↔ part <:+: whole := by
  induction whole with
  | nil => simp [occursIn]
  | cons c rest ih => simp [occursIn, ih, List.infix_cons_iff]

/-- The names a message is searched for. -/
def soughtNames : List String := ["ENOENT", "EACCES", "EPERM", "EISDIR"]

def Names (text name : String) : Prop := name.toList <:+: text.toList

instance (text name : String) : Decidable (Names text name) :=
  decidable_of_iff (occursIn name.toList text.toList) occursIn_iff

/-- Two texts hold the same of the names that are looked for. -/
def NamesAlike (s t : String) : Prop := ∀ name ∈ soughtNames, Names s name ↔ Names t name

instance (s t : String) : Decidable (NamesAlike s t) :=
  List.decidableBAll (fun name => Names s name ↔ Names t name) soughtNames

/-- A text holds none of the names. -/
def NamesNothing (text : String) : Prop := ∀ name ∈ soughtNames, ¬ Names text name

instance (text : String) : Decidable (NamesNothing text) :=
  List.decidableBAll (fun name => ¬ Names text name) soughtNames

theorem ofText_of_namesAlike {s t : String} (h : NamesAlike s t) : ofText s = ofText t := by
  have hmentions (name : String) (hname : name ∈ soughtNames) :
      occursIn name.toList s.toList = occursIn name.toList t.toList := by
    rw [Bool.eq_iff_iff, occursIn_iff, occursIn_iff]
    exact h name hname
  simp only [soughtNames, List.forall_mem_cons] at hmentions
  obtain ⟨hnoent, hacces, hperm, hisdir, -⟩ := hmentions
  simp only [ofText, hnoent, hacces, hperm, hisdir]

theorem ofText_of_namesNothing {text : String} (h : NamesNothing text) :
    ofText text = .unknown := by
  have hempty : NamesNothing "" := by decide
  have halike : NamesAlike text "" := fun name hname =>
    iff_of_false (h name hname) (hempty name hname)
  rw [ofText_of_namesAlike halike]
  rfl

theorem isUpper_of_mem_soughtNames : ∀ name ∈ soughtNames, name.toList ≠ [] ∧
    name.toList.all Char.isUpper := by
  decide

end ErrorCode


-- ---------------------------------------------------------------------------
-- Kinds of errors
-- ---------------------------------------------------------------------------

open ErrorCode

/-- A kind of error that quotes a path: all there is to it but the path. -/
structure FaultShape where
  kind : FaultKind := .general
  code : Value
  before : String
  quote : String → String
  after : String

namespace FaultShape

/-- The error with a path. -/
def on (f : FaultShape) (path : String) : Fault where
  kind := f.kind
  message := f.before ++ f.quote path ++ f.after
  code := f.code

/-- The code of its error number, where one is assigned. -/
def assigned? (f : FaultShape) : Option ErrorCode :=
  match f.code with
  | .text errno => ofErrno? errno
  | _ => none

/-- The code of the failure a file comes to with this error. -/
def codeOn (f : FaultShape) (path : String) : ErrorCode :=
  ((Thrown.fault (f.on path)).toFileFailure path).code

/-- The path does not stand next to a capital letter. -/
def Delimited (f : FaultShape) : Prop :=
  f.before.toList.getLast?.all (!·.isUpper) ∧ f.after.toList.head?.all (!·.isUpper)

/-- A null character in a path. -/
def nullPath : FaultShape where
  kind := .argument
  code := .text "ERR_INVALID_ARG_VALUE"
  before := "The argument 'path' must be a string, Uint8Array, or URL without null bytes. Received "
  quote path := String.ofList (Text.quoteShort path.toList)
  after := ""

/-- An error number met in opening a path. -/
def opening (errno text : String) : FaultShape where
  code := .text errno
  before := errno ++ ": " ++ text ++ ", open '"
  quote path := path
  after := "'"

theorem nullPath_on (path : String) : nullPath.on path = nullPathFault path := by
  simp [nullPath, on, nullPathFault]

theorem opening_on (e : SystemError) (path : String) :
    (opening e.errno e.text).on path = e.openFault path := by
  simp [← String.toList_inj, opening, on, SystemError.openFault, SystemError.fault]

theorem assigned_opening (e : SystemError) :
    ∃ code, (opening e.errno e.text).assigned? = some code := by
  cases e <;> exact ⟨_, rfl⟩

theorem delimited_nullPath : nullPath.Delimited := by
  constructor <;> decide +kernel

theorem delimited_opening (errno text : String) : (opening errno text).Delimited := by
  have hbefore : (opening errno text).before.toList
      = (errno ++ ": " ++ text ++ ", open ").toList ++ ['\''] := by
    simp [opening]
  have hafter : (opening errno text).after = "'" := rfl
  constructor
  · rw [hbefore, List.getLast?_concat]
    decide
  · rw [hafter]
    decide

variable {f : FaultShape} {p q path : String}

theorem codeOn_eq (f : FaultShape) (path : String) :
    f.codeOn path = f.assigned?.getD (ofText (f.on path).message) := by
  rw [codeOn, (Thrown.toFileFailure_spec _ path).1, Thrown.classify, Fault.systemCode?, assigned?,
    on]
  cases f.code with
  | text errno => cases h : ofErrno? errno <;> simp [h]
  | _ => rfl

/-- A message holds a name exactly if the quoted path does, or what stands around it. -/
theorem names_message_iff (hdelimited : f.Delimited) {name : String} (hname : name ∈ soughtNames) :
    Names (f.on path).message name ↔
      Names f.before name ∨ Names (f.quote path) name ∨ Names f.after name := by
  obtain ⟨hne, hupper⟩ := isUpper_of_mem_soughtNames name hname
  rw [Names, on, String.toList_append, String.toList_append,
    Text.infix_append_append_iff hne hupper hdelimited.1 hdelimited.2]
  rfl

theorem namesAlike_message (hdelimited : f.Delimited)
    (halike : NamesAlike (f.quote p) (f.quote q)) :
    NamesAlike (f.on p).message (f.on q).message := fun name hname => by
  rw [names_message_iff hdelimited hname, names_message_iff hdelimited hname, halike name hname]

/-- Where nothing else in the message is a name, the path alone decides. -/
theorem codeOn_of_delimited (hdelimited : f.Delimited) (hbefore : NamesNothing f.before)
    (hafter : NamesNothing f.after) (hassigned : f.assigned? = none) (path : String) :
    f.codeOn path = ofText (f.quote path) := by
  have halike : NamesAlike (f.on path).message (f.quote path) := fun name hname => by
    rw [names_message_iff hdelimited hname]
    simp [hbefore name hname, hafter name hname]
  rw [codeOn_eq, hassigned, Option.getD_none, ofText_of_namesAlike halike]

/-- The result for a path with a null character. -/
theorem result_of_null (o : ScanOptions) (t : FileTree) (hnull : Char.ofNat 0 ∈ path.toList) :
    ∃ failure, (o.scan path (t.openPath path)).result = .failed path failure ∧
      failure.code = ofText (nullPath.quote path) := by
  have hopening : t.openPath path = .error (.fault (nullPath.on path)) := by
    rw [nullPath_on, FileTree.openPath, if_pos (List.contains_iff_mem.mpr hnull)]
  refine ⟨(Thrown.fault (nullPath.on path)).toFileFailure path, by rw [hopening]; rfl, ?_⟩
  have hbefore : NamesNothing nullPath.before := by decide +kernel
  have hafter : NamesNothing nullPath.after := by decide
  exact codeOn_of_delimited delimited_nullPath hbefore hafter rfl path

/-- A kind of error whose number has a code of its own has this code with every path. With any other
it has the same code with two paths if the messages hold the same of the names that are looked for.
Where the path does not stand next to a capital letter, it is enough that the quoted paths do; and
if nothing around the path is such a name, the quoted path decides as if there were no more to the
message. A path that cannot be opened, and one with a null character, is quoted in such a way, and
the errors that come of a tree all have a code of their own. -/
theorem classified_alike (p q : String) :
    (∀ f : FaultShape,
      (∀ code, f.assigned? = some code → f.codeOn p = code ∧ f.codeOn q = code) ∧
      (NamesAlike (f.on p).message (f.on q).message → f.codeOn p = f.codeOn q) ∧
      (f.Delimited → NamesAlike (f.quote p) (f.quote q) → f.codeOn p = f.codeOn q) ∧
      (f.Delimited → NamesNothing f.before → NamesNothing f.after → f.assigned? = none →
        f.codeOn p = ofText (f.quote p) ∧ f.codeOn q = ofText (f.quote q))) ∧
    (∀ e : SystemError, ((Thrown.fault (e.openFault p)).toFileFailure p).code
      = ((Thrown.fault (e.openFault q)).toFileFailure q).code) ∧
    (∀ errno text, NamesAlike p q →
      (opening errno text).codeOn p = (opening errno text).codeOn q) ∧
    ∀ (o : ScanOptions) (t u : FileTree), Char.ofNat 0 ∈ p.toList → Char.ofNat 0 ∈ q.toList →
      ∃ failure failure', (o.scan p (t.openPath p)).result = .failed p failure ∧
        (o.scan q (u.openPath q)).result = .failed q failure' ∧
        (NamesAlike (nullPath.quote p) (nullPath.quote q) → failure.code = failure'.code) ∧
        (NamesNothing (nullPath.quote p) → failure.code = .unknown) ∧
        (NamesNothing (nullPath.quote q) → failure'.code = .unknown) := by
  have hmessages (f : FaultShape) (halike : NamesAlike (f.on p).message (f.on q).message) :
      f.codeOn p = f.codeOn q := by
    rw [codeOn_eq, codeOn_eq, ofText_of_namesAlike halike]
  have hquoted (f : FaultShape) (hdelimited : f.Delimited)
      (halike : NamesAlike (f.quote p) (f.quote q)) : f.codeOn p = f.codeOn q :=
    hmessages f (namesAlike_message hdelimited halike)
  have hassigned (f : FaultShape) (code : ErrorCode) (hcode : f.assigned? = some code) :
      f.codeOn p = code ∧ f.codeOn q = code := by
    rw [codeOn_eq, codeOn_eq, hcode]
    exact ⟨rfl, rfl⟩
  refine ⟨fun f => ⟨hassigned f, hmessages f, hquoted f, ?_⟩, fun e => ?_,
    fun errno text halike => hquoted _ (delimited_opening errno text) halike,
    fun o t u hp hq => ?_⟩
  · intro hdelimited hbefore hafter hassigned
    have hcode := codeOn_of_delimited hdelimited hbefore hafter hassigned
    exact ⟨hcode p, hcode q⟩
  · obtain ⟨code, hcode⟩ := assigned_opening e
    obtain ⟨hp, hq⟩ := hassigned (opening e.errno e.text) code hcode
    rw [← opening_on, ← opening_on]
    exact hp.trans hq.symm
  · obtain ⟨failure, hresult, hcode⟩ := result_of_null o t hp
    obtain ⟨failure', hresult', hcode'⟩ := result_of_null o u hq
    refine ⟨failure, failure', hresult, hresult', fun halike => ?_, fun hnothing => ?_,
      fun hnothing => ?_⟩
    · rw [hcode, hcode', ofText_of_namesAlike halike]
    · rw [hcode, ofText_of_namesNothing hnothing]
    · rw [hcode', ofText_of_namesNothing hnothing]

/-- Reads lines; nothing matches. -/
def neverMatching : ScanOptions where
  matcher := .ofSearch "" "" fun _ => none
  mode := .byLine
  maxFileSize := .real 9

theorem classified_alike_two_names :
    (opening "ENOENT" "no such file or directory").codeOn "EPERM" = .notFound ∧
    (opening "EIO" "i/o error").codeOn "notes" = (opening "EIO" "i/o error").codeOn "enoent" ∧
    nullPath.codeOn "a\x00" = nullPath.codeOn "EIO\x00" ∧
    ∃ failure, (neverMatching.scan "a\x00" (FileTree.empty.openPath "a\x00")).result
      = .failed "a\x00" failure ∧ failure.code = .unknown := by
  refine ⟨?_, ?_, ?_, ?_⟩
  · exact (((classified_alike "EPERM" "notes").1 _).1 .notFound rfl).1
  · exact (classified_alike "notes" "enoent").2.2.1 _ _ (by decide)
  · exact ((classified_alike "a\x00" "EIO\x00").1 nullPath).2.2.1 delimited_nullPath
      (by decide +kernel)
  · obtain ⟨failure, -, hresult, -, -, hnothing, -⟩ :=
      (classified_alike "a\x00" "EIO\x00").2.2.2 neverMatching .empty .empty (by decide) (by decide)
    exact ⟨failure, hresult, hnothing (by decide +kernel)⟩

/-- Two paths that are refused for a null character, one of which holds a name that is looked for. -/
theorem null_path_named_like_errno :
    ((Thrown.fault (nullPathFault "a\x00")).toFileFailure "a\x00").code = .unknown ∧
    ((Thrown.fault (nullPathFault "ENOENT\x00")).toFileFailure "ENOENT\x00").code
      = .notFound := by
  constructor <;> decide +kernel

end FaultShape

end FileSearch
