import As2Exchange.Session
import As2Exchange.Proofs.Files.Reading
import As2Exchange.Proofs.KeyStore.Loading

/-!
# Opening a session

Where a session cannot be opened, this should be told as the failure of a component. It is, except
for six failures that the loading of the key store lets through as they are.

- `KeyStore.Escape` lists these failures, each with its condition;
- `KeyStore.load_escapes_iff` says that there are no others;
- `Session.start_escapes_iff` says the same of the opening of a session, and that a failure of the
  key store comes before any of the partnerships.
-/

namespace As2Exchange

namespace KeyStore

/-! ## Failures that escape -/

/-- The bytes of a password; the empty password is none. -/
def wordOf (password : String) : Option Bytes :=
  if password = "" then none else some (Charset.Utf8.encode password.toList)

/-- The failures of a loading that are not told as failures of the component. -/
inductive Escape (surroundings : Surroundings) (path : PathName) (password : String) :
    Failure → Prop where
  /-- The path asks for the home directory of a user by a name with a NUL in it. -/
  | user {user : String} (huser : path.homeUser? = some user) (hnul : '\x00' ∈ user.toList) :
      Escape surroundings path password (.file .nulInName)
  /-- The path asks for the home directory of a user who is not known. -/
  | home {user : String} (huser : path.homeUser? = some user) (hnul : '\x00' ∉ user.toList)
      (hunknown : surroundings.home? user = none) :
      Escape surroundings path password .unknownHome
  /-- The path is seen from the working directory, which has been removed. -/
  | stranded {expanded : PathName}
      (hnul : ∀ user, path.homeUser? = some user → '\x00' ∉ user.toList)
      (hexpanded : path.expandHome? surroundings.home? = some expanded)
      (hrelative : expanded.isAbsolute = false) (hdetached : surroundings.files.isDetached = true) :
      Escape surroundings path password (.file .noWorkingDirectory)
  /-- There is a NUL in the name of the file. -/
  | name {place : PathName} (hplace : locate surroundings path = .ok place)
      (hnul : '\x00' ∈ (toString place).toList) :
      Escape surroundings path password (.file .nulInName)
  /-- The library that opens stores raises an exception, which says neither that a value nor that a
  type is unsuitable. -/
  | reader {place : PathName} {data : Bytes} {e : Raised}
      (hplace : locate surroundings path = .ok place)
      (hread : surroundings.files.read (toString place) = .ok data)
      (hraises : surroundings.openStore data (wordOf password) = .error e)
      (htype : e.is "TypeError" = false) (hvalue : e.is "ValueError" = false) :
      Escape surroundings path password (.raised e)
  /-- The name of an entry is no text; the first such entry is told. -/
  | entry {place : PathName} {data : Bytes} {file : KeyFile}
      {before after : List (FriendlyName × Credential)} {entry : FriendlyName × Credential}
      {broken : Charset.Utf8.Broken}
      (hplace : locate surroundings path = .ok place)
      (hread : surroundings.files.read (toString place) = .ok data)
      (hopens : surroundings.openStore data (wordOf password) = .ok file)
      (hentries : file.entries = before ++ entry :: after)
      (hbefore : ∀ earlier ∈ before, earlier.1.text?.isSome = true)
      (hbroken : Charset.Utf8.decodeStrict entry.1.bytes = .error broken) :
      Escape surroundings path password
        (.charset (.undecodable broken.start broken.bytes broken.fault))

variable {surroundings : Surroundings} {path place : PathName} {password : String}
  {failure : Failure} {file : KeyFile}

theorem passwordOf_text (password : String) :
    passwordOf (.text password) = .ok (wordOf password) := by
  unfold passwordOf wordOf
  by_cases h : password = ""
  · subst h
    rfl
  · simp [Value.isTrue, h]

/-- A place is found unless the home directory of a user is asked for in vain, or the working
directory is needed and not there. -/
theorem locate_eq_error : locate surroundings path = .error failure ↔
    (∃ user, path.homeUser? = some user ∧
      (('\x00' ∈ user.toList ∧ failure = .file .nulInName) ∨
        ('\x00' ∉ user.toList ∧ surroundings.home? user = none ∧ failure = .unknownHome))) ∨
    (∀ user, path.homeUser? = some user → '\x00' ∉ user.toList) ∧
      ∃ expanded, path.expandHome? surroundings.home? = some expanded ∧
        expanded.isAbsolute = false ∧ surroundings.files.isDetached = true ∧
        failure = .file .noWorkingDirectory := by
  -- what is left once the home directory is expanded
  have hrest (expanded : PathName) :
      (if expanded.isAbsolute then Except.ok expanded
        else if surroundings.files.isDetached then .error (.file .noWorkingDirectory)
        else .ok (expanded.below surroundings.files.workingDirectory)) = .error failure ↔
      expanded.isAbsolute = false ∧ surroundings.files.isDetached = true ∧
        failure = .file .noWorkingDirectory := by
    cases expanded.isAbsolute with
    | true => simp
    | false =>
      cases surroundings.files.isDetached with
      | true => simpa using eq_comm
      | false => simp
  unfold locate PathName.expandHome?
  cases path.homeUser? with
  | none => simpa using hrest path
  | some user =>
    have hcomm : ∀ cause : Failure, cause = failure ↔ failure = cause := fun _ => eq_comm
    by_cases hnul : '\x00' ∈ user.toList
    · simp [hnul, hcomm]
    · cases hhome : surroundings.home? user with
      | none => simp [hnul, hhome, hcomm]
      | some home => simpa [hnul, hhome] using hrest _

/-- A file is not read because of a NUL in its name, or by a failure of the component. -/
theorem readFile_eq_error : readFile surroundings place = .error failure ↔
    ('\x00' ∈ (toString place).toList ∧ failure = .file .nulInName) ∨
    ∃ cause, cause ≠ .nulInName ∧ surroundings.files.read (toString place) = .error cause ∧
      failure = .component (.unreadKeyStore place cause) := by
  have hname : surroundings.files.read (toString place) = .error .nulInName ↔
      '\x00' ∈ (toString place).toList := FileTree.read_eq_nulInName
  unfold readFile
  constructor
  · intro h
    split at h
    · cases h
    · rename_i hnul
      cases h
      exact .inl ⟨hname.1 hnul, rfl⟩
    · rename_i cause hother hread
      cases h
      exact .inr ⟨cause, hother, hread, rfl⟩
  · rintro (⟨hnul, rfl⟩ | ⟨cause, hother, hread, rfl⟩)
    · rw [hname.2 hnul]
    · rw [hread]
      cases cause with
      | nulInName => exact absurd rfl hother
      | _ => rfl

/-- A store is not opened by what the library raises, which is wrapped if it is about a value or a
type. -/
theorem openFile_eq_error {data : Bytes} {word : Option Bytes} :
    openFile surroundings place data word = .error failure ↔
      ∃ e, surroundings.openStore data word = .error e ∧
        failure = if e.is "TypeError" || e.is "ValueError" then
          .component (.unopenedKeyStore place e) else .raised e := by
  unfold openFile
  cases surroundings.openStore data word with
  | ok file => exact iff_of_false nofun (by rintro ⟨e, h, -⟩; cases h)
  | error e =>
    constructor
    · intro h
      refine ⟨e, rfl, ?_⟩
      dsimp only at h
      split at h <;> rename_i hkind <;> cases h
      · rw [if_pos hkind]
      · rw [if_neg hkind]
    · rintro ⟨e', he, rfl⟩
      cases he
      dsimp only
      split <;> rfl

/-- The entries of a file are read up to the first name that is no text. -/
theorem certificatesOf_eq_error : certificatesOf file = .error failure ↔
    ∃ before entry after broken, file.entries = before ++ entry :: after ∧
      (∀ earlier ∈ before, earlier.1.text?.isSome = true) ∧
      Charset.Utf8.decodeStrict entry.1.bytes = .error broken ∧
      failure = .charset (.undecodable broken.start broken.bytes broken.fault) := by
  unfold certificatesOf
  rw [mapM_eq_error]
  simp only [underAlias_isOk, underAlias_eq_error, aliasOf_eq_error]
  constructor
  · rintro ⟨before, entry, after, hentries, hbefore, broken, hbroken, rfl⟩
    exact ⟨before, entry, after, broken, hentries, hbefore, hbroken, rfl⟩
  · rintro ⟨before, entry, after, broken, hentries, hbefore, hbroken, rfl⟩
    exact ⟨before, entry, after, hentries, hbefore, broken, hbroken, rfl⟩

/-! ## The loading -/

/-- A loading from a path, with a password that is a text. -/
theorem load_text (surroundings : Surroundings) (path : PathName) (password : String) :
    load surroundings (.path path) (.text password) = (do
      let place ← locate surroundings path
      let data ← readFile surroundings place
      ofFile place (← openFile surroundings place data (wordOf password))) := by
  unfold load
  rw [passwordOf_text]
  rfl

/-- The steps in order: the place, the content, the store in it. The first one that fails
decides. -/
theorem load_text_eq_error : load surroundings (.path path) (.text password) = .error failure ↔
    locate surroundings path = .error failure ∨
    ∃ place, locate surroundings path = .ok place ∧ (readFile surroundings place = .error failure ∨
    ∃ data, readFile surroundings place = .ok data ∧
      (openFile surroundings place data (wordOf password) = .error failure ∨
    ∃ file, openFile surroundings place data (wordOf password) = .ok file ∧
      ofFile place file = .error failure)) := by
  rw [load_text]
  rw [bind_eq_error]
  refine or_congr_right (exists_congr fun place => and_congr_right fun _ => ?_)
  rw [bind_eq_error]
  exact or_congr_right (exists_congr fun data => and_congr_right fun _ => bind_eq_error)

/-- A loading that fails tells the failure of a component, or one that escapes. -/
theorem escape_of_load
    (h : load surroundings (.path path) (.text password) = .error failure) :
    (∃ cause, failure = .component cause) ∨ Escape surroundings path password failure := by
  rcases load_text_eq_error.1 h with hplace | ⟨place, hplace, hcontent | ⟨data, hdata, h⟩⟩
  · right
    rcases locate_eq_error.1 hplace with
      ⟨user, huser, ⟨hnul, rfl⟩ | ⟨hnul, hunknown, rfl⟩⟩ |
        ⟨hnul, expanded, hexpanded, hrelative, hdetached, rfl⟩
    · exact .user huser hnul
    · exact .home huser hnul hunknown
    · exact .stranded hnul hexpanded hrelative hdetached
  · rcases readFile_eq_error.1 hcontent with ⟨hnul, rfl⟩ | ⟨cause, -, -, rfl⟩
    · exact .inr (.name hplace hnul)
    · exact .inl ⟨_, rfl⟩
  have hread := readFile_eq_ok.1 hdata
  rcases h with hopened | ⟨file, hopened, hfile⟩
  · obtain ⟨e, hraises, rfl⟩ := openFile_eq_error.1 hopened
    split
    · exact .inl ⟨_, rfl⟩
    · rename_i hother
      rw [Bool.or_eq_true, not_or, Bool.not_eq_true, Bool.not_eq_true] at hother
      exact .inr (.reader hplace hread hraises hother.1 hother.2)
  · obtain ⟨before, entry, after, broken, hentries, hbefore, hbroken, rfl⟩ :=
      certificatesOf_eq_error.1 (ofFile_eq_error.1 hfile)
    exact .inr (.entry hplace hread (openFile_eq_ok.1 hopened) hentries hbefore hbroken)

/-- The failures that escape do so. -/
theorem load_of_escape (h : Escape surroundings path password failure) :
    load surroundings (.path path) (.text password) = .error failure := by
  refine load_text_eq_error.2 ?_
  cases h with
  | user huser hnul => exact .inl (locate_eq_error.2 (.inl ⟨_, huser, .inl ⟨hnul, rfl⟩⟩))
  | home huser hnul hunknown =>
    exact .inl (locate_eq_error.2 (.inl ⟨_, huser, .inr ⟨hnul, hunknown, rfl⟩⟩))
  | stranded hnul hexpanded hrelative hdetached =>
    exact .inl (locate_eq_error.2 (.inr ⟨hnul, _, hexpanded, hrelative, hdetached, rfl⟩))
  | name hplace hnul => exact .inr ⟨_, hplace, .inl (readFile_eq_error.2 (.inl ⟨hnul, rfl⟩))⟩
  | reader hplace hread hraises htype hvalue =>
    refine .inr ⟨_, hplace, .inr ⟨_, readFile_eq_ok.2 hread, .inl ?_⟩⟩
    refine openFile_eq_error.2 ⟨_, hraises, (if_neg ?_).symm⟩
    rw [htype, hvalue]
    exact Bool.false_ne_true
  | entry hplace hread hopens hentries hbefore hbroken =>
    refine .inr ⟨_, hplace, .inr ⟨_, readFile_eq_ok.2 hread, .inr ?_⟩⟩
    refine ⟨_, openFile_eq_ok.2 hopens, ofFile_eq_error.2 ?_⟩
    exact certificatesOf_eq_error.2 ⟨_, _, _, _, hentries, hbefore, hbroken, rfl⟩

theorem Escape.not_component (h : Escape surroundings path password failure) :
    ¬ ∃ cause, failure = .component cause := by
  rintro ⟨cause, hcause⟩
  cases h <;> cases hcause

end KeyStore

/-! ## The session -/

namespace Session

section

variable {surroundings : Surroundings} {settings : Settings} {partnershipsFail : Option Foreign}

/-- A failure of the key store ends the opening, whatever would happen to the partnerships. -/
theorem start_of_load_error {failure : Failure}
    (h : KeyStore.load surroundings settings.keyStorePath settings.keyStorePassword =
      .error failure) (partnershipsFail : Option Foreign) :
    start surroundings settings partnershipsFail = .error failure :=
  bind_eq_error.2 (.inl h)

/-- With the key store there, the partnerships decide. -/
theorem start_of_load_ok {keyStore : KeyStore}
    (h : KeyStore.load surroundings settings.keyStorePath settings.keyStorePassword =
      .ok keyStore)
    (hpartnerships : ∀ cause, partnershipsFail = some cause → cause.family ≠ .interrupt) :
    start surroundings settings partnershipsFail =
      match partnershipsFail with
      | none => .ok { keyStore }
      | some cause => .error (.component (.partnerships cause)) := by
  unfold start
  rw [h]
  cases partnershipsFail with
  | none => rfl
  | some cause =>
    show (if cause.family = .interrupt then _ else _) = _
    exact if_neg (hpartnerships cause rfl)

end

/-! ## A home directory that is not known -/

namespace Stranger

/-- Settings whose key store is in the home directory of somebody else. -/
def settings : Settings where
  senderAs2Id := .text "ME"
  senderKeyAlias := .text "me"
  senderEmail := .text "as2@me.example"
  receiverAs2Id := .text "THEM"
  receiverKeyAlias := .text "them"
  destinationUrl := .text "https://partner.example/as2"
  keyStorePath := .path ⟨"", ["~nosuchuser", "k.p12"]⟩
  keyStorePassword := .text "secret"
  partnershipName := .text "ME-THEM"

def surroundings : Surroundings where
  files := .empty ⟨"/", ["w"]⟩
  homes := [("", ⟨"/", ["w", "home"]⟩)]
  clock := ⟨2024, 1, 2, 3, 4, 5⟩
  openStore _ _ := .ok {}

theorem homeUser?_path :
    PathName.homeUser? ⟨"", ["~nosuchuser", "k.p12"]⟩ = some "nosuchuser" := by
  decide +kernel

theorem escape : KeyStore.Escape surroundings ⟨"", ["~nosuchuser", "k.p12"]⟩ "secret"
    .unknownHome :=
  .home homeUser?_path (by decide) rfl

end Stranger

end Session

end As2Exchange
