import As2Exchange.Proofs.KeyStore.Loading

/-!
# Histories of a key store

One key store is loaded again and again, and asked for credentials in between. Whatever has been
done before, its answers are those of the file that was opened last.

- `Access` is what a caller can do, `answers` and `after` are a run of accesses;
- `lastOpened` is the file that was opened last, and `told` the answer of that file alone;
- `reflects_access` is the step, and `reflects_after` the run;
- `answers_of_last_opened` collects what holds of every history.
-/

namespace As2Exchange.KeyStore

/-! ## Runs -/

/-- What a caller can do with a key store. Each loading meets the files as they are by then. -/
inductive Access where
  | load (surroundings : Surroundings) (path password : Value)
  | certificate (label : String)
  | privateKey (label : String)

/-- What an access gives: a credential if it asked for one, or the failure that it raised. -/
abbrev Answer := Except Failure (Option Credential)

def lookedUp : Except CredentialError Credential → Answer
  | .ok credential => .ok (some credential)
  | .error cause => .error (.credential cause)

/-- The store after an access, and the answer. -/
def access (store : KeyStore) : Access → KeyStore × Answer
  | .load surroundings path password =>
    match store.reload surroundings path password with
    | (store, some failure) => (store, .error failure)
    | (store, none) => (store, .ok none)
  | .certificate label => (store, lookedUp (store.certificate label))
  | .privateKey label => (store, lookedUp (store.privateKey label))

/-- The store after several accesses. -/
def after (store : KeyStore) (accesses : List Access) : KeyStore :=
  accesses.foldl (fun store access => (store.access access).1) store

/-- The answers to several accesses, in their order. -/
def answers : KeyStore → List Access → List Answer
  | _, [] => []
  | store, access :: rest =>
    let (store, answer) := store.access access
    answer :: answers store rest

/-! ## What the last file tells -/

/-- The file that an access opens, if it is a loading that succeeds. -/
def Access.opened? : Access → Option (PathName × KeyFile)
  | .load surroundings path password => KeyStore.opened? surroundings path password
  | .certificate _ | .privateKey _ => none

/-- The file that was opened last. -/
def lastOpened (accesses : List Access) : Option (PathName × KeyFile) :=
  (accesses.filterMap Access.opened?).getLast?

/-- The answer to an access when a file was the last one to be opened. A loading fails for reasons
of its own. -/
def told (opened : Option (PathName × KeyFile)) : Access → Answer
  | .load surroundings path password => (load surroundings path password).map fun _ => none
  | .certificate label =>
    match opened.bind fun file => file.2.certificateNamed? label with
    | some certificate => .ok (some certificate)
    | none => .error (.credential (.noCertificate label))
  | .privateKey label =>
    match opened.bind fun file => file.2.keyNamed? label with
    | some key => .ok (some key)
    | none => .error (.credential (.noKey label))

theorem lastOpened_cons (access : Access) (rest : List Access) :
    lastOpened (access :: rest) = (lastOpened rest).or access.opened? := by
  unfold lastOpened
  rw [List.filterMap_cons]
  cases access.opened? with
  | none => simp
  -- an access opens the last file just if none behind it does
  | some opened =>
    rw [List.getLast?_cons]
    cases (rest.filterMap Access.opened?).getLast? <;> rfl

/-! ## The step -/

/-- The store holds what is in the opened file, and nothing if none has been opened. -/
def Reflects (store : KeyStore) : Option (PathName × KeyFile) → Prop
  | none => store = {}
  | some (place, file) => ofFile place file = .ok store

section

variable {store : KeyStore} {opened : Option (PathName × KeyFile)}

theorem Reflects.file_eq (h : Reflects store opened) : store.file = opened.map (·.1) := by
  -- the store is a fresh one, or it was made of the file
  cases opened with
  | none =>
    cases h
    rfl
  | some opened => exact (ofFile_eq_ok.1 h).1

theorem Reflects.find?_certificates (h : Reflects store opened) (label : String) :
    find? store.certificates label = opened.bind fun file => file.2.certificateNamed? label := by
  cases opened with
  | none =>
    cases h
    rfl
  | some opened => exact KeyStore.find?_certificates h label

theorem Reflects.find?_privateKeys (h : Reflects store opened) (label : String) :
    find? store.privateKeys label = opened.bind fun file => file.2.keyNamed? label := by
  cases opened with
  | none =>
    cases h
    rfl
  | some opened => exact KeyStore.find?_privateKeys h label

/-- A loading that opens a file replaces what the store reflects; all other accesses keep it. -/
theorem reflects_access (h : Reflects store opened) (access : Access) :
    Reflects (store.access access).1 (access.opened?.or opened) := by
  cases access with
  | certificate label => exact h
  | privateKey label => exact h
  | load surroundings path password =>
    unfold KeyStore.access reload Access.opened?
    dsimp only
    -- a loading that fails puts the old content back, one that succeeds leaves nothing of it
    cases hopened : KeyStore.opened? surroundings path password with
    | none =>
      obtain ⟨failure, hload⟩ := load_of_not_opened hopened
      rw [hload]
      exact h
    | some opened =>
      obtain ⟨store', hload, hstore⟩ := load_of_opened hopened
      rw [hload]
      exact hstore

/-- A store that reflects a file answers as the file tells. -/
theorem Reflects.answer_eq (h : Reflects store opened) (access : Access) :
    (store.access access).2 = told opened access := by
  cases access with
  | load surroundings path password =>
    unfold KeyStore.access reload told
    dsimp only
    cases load surroundings path password <;> rfl
  | certificate label =>
    unfold KeyStore.access told KeyStore.certificate
    dsimp only
    rw [h.find?_certificates label]
    cases opened.bind fun file => file.2.certificateNamed? label <;> rfl
  | privateKey label =>
    unfold KeyStore.access told KeyStore.privateKey
    dsimp only
    rw [h.find?_privateKeys label]
    cases opened.bind fun file => file.2.keyNamed? label <;> rfl

/-! ## The run -/

/-- After any accesses a store reflects the file that was opened last. -/
theorem Reflects.after (h : Reflects store opened) (accesses : List Access) :
    Reflects (store.after accesses) ((lastOpened accesses).or opened) := by
  -- the store and what it reflects change together, so both are kept general
  induction accesses generalizing store opened with
  | nil => exact h
  | cons access rest ih =>
    rw [lastOpened_cons, Option.or_assoc]
    exact ih (reflects_access h access)

theorem reflects_after (accesses : List Access) :
    Reflects (after {} accesses) (lastOpened accesses) := by
  have hfresh : Reflects {} none := rfl
  have hrun := hfresh.after accesses
  rwa [Option.or_none] at hrun

/-- Each answer is given by the store that the accesses before it have left. -/
theorem answers_getElem? (store : KeyStore) (accesses : List Access) (k : Nat) :
    (answers store accesses)[k]? =
      accesses[k]?.map fun access => ((store.after (accesses.take k)).access access).2 := by
  induction accesses generalizing store k with
  | nil => rfl
  | cons access rest ih =>
    -- the first access is answered by the store as it is, the others by the one behind it
    cases k with
    | zero => rfl
    | succ k => exact ih (store.access access).1 k

/-- Stores that reflect the same file give the same answers from then on. -/
theorem answers_congr {left right : KeyStore} (hleft : Reflects left opened)
    (hright : Reflects right opened) (accesses : List Access) :
    answers left accesses = answers right accesses := by
  apply List.ext_getElem?
  intro k
  rw [answers_getElem?, answers_getElem?]
  -- two stores that reflect the same file go on to do so
  refine Option.map_congr fun access _ => ?_
  rw [(hleft.after (accesses.take k)).answer_eq access,
    (hright.after (accesses.take k)).answer_eq access]

end

theorem lastOpened_append_singleton (accesses : List Access) (access : Access) :
    lastOpened (accesses ++ [access]) = access.opened?.or (lastOpened accesses) := by
  unfold lastOpened
  rw [List.filterMap_append, List.getLast?_append, List.filterMap_cons]
  cases access.opened? <;> rfl

/-! ## All histories -/

/-- **A key store is what was opened last.** At any point of any history the answers and the file
name are told by the last file that was opened alone. An access that opens no file, such as a
loading that fails, changes no later answer, and no answer after a loading that succeeds depends on
what was done before it. -/
theorem answers_of_last_opened (accesses : List Access) :
    (∀ k, (answers {} accesses)[k]? =
      accesses[k]?.map (told (lastOpened (accesses.take k)))) ∧
    (∀ k, (after {} (accesses.take k)).file = (lastOpened (accesses.take k)).map (·.1)) ∧
    (∀ surroundings path password, (load surroundings path password).isOk =
      (opened? surroundings path password).isSome) ∧
    (∀ access later, access.opened? = none →
      answers (after {} (accesses ++ [access])) later = answers (after {} accesses) later) ∧
    ∀ access others later, access.opened? ≠ none →
      answers (after {} (accesses ++ [access])) later =
        answers (after {} (others ++ [access])) later := by
  refine ⟨?answers, ?file, ?success, ?failed, ?replaced⟩
  case answers =>
    intro k
    rw [answers_getElem?]
    exact Option.map_congr fun access _ => (reflects_after (accesses.take k)).answer_eq access
  case file => exact fun k => (reflects_after (accesses.take k)).file_eq
  case success =>
    intro surroundings path password
    cases hopened : opened? surroundings path password with
    | none =>
      obtain ⟨failure, hload⟩ := load_of_not_opened hopened
      rw [hload]
      rfl
    | some opened =>
      obtain ⟨store, hload, -⟩ := load_of_opened hopened
      rw [hload]
      rfl
  case failed =>
    intro access later hnone
    have hleft := reflects_after (accesses ++ [access])
    rw [lastOpened_append_singleton, hnone, Option.none_or] at hleft
    exact answers_congr hleft (reflects_after accesses) later
  case replaced =>
    intro access others later hsome
    obtain ⟨opened, hopened⟩ := Option.ne_none_iff_exists'.1 hsome
    have hleft := reflects_after (accesses ++ [access])
    have hright := reflects_after (others ++ [access])
    rw [lastOpened_append_singleton, hopened, Option.some_or] at hleft hright
    exact answers_congr hleft hright later

/-! ## A store that is loaded twice -/

namespace Reloaded

/-- A store with two certificates of one alias. -/
def file : KeyFile where
  ownAlias := "My KEY"
  key := some ⟨"ME"⟩
  certificate := some ⟨"ME"⟩
  additional := [("PARTNER", ⟨"P1"⟩), ("partner", ⟨"P2"⟩)]

def surroundings : Surroundings where
  files := { nodes := [(["w", "k.p12"], .file [0x30])], workingDirectory := ⟨"/", ["w"]⟩ }
  clock := ⟨2024, 1, 2, 3, 4, 5⟩
  openStore := file.lockedWith "secret"

def opening : Access := .load surroundings (.text "k.p12") (.text "secret")

/-- A loading that finds no file. -/
def failing : Access := .load surroundings (.text "missing.p12") (.text "secret")

def accesses : List Access := [opening, failing, .certificate "Partner", .privateKey "partner"]

end Reloaded

open Reloaded

/-- After a failed loading the answers are still those of the file that was opened before it. -/
theorem answers_of_last_opened_reloaded :
    opening.opened? ≠ none ∧ failing.opened? = none ∧
      (answers {} accesses)[2]? = some (.ok (some ⟨"P2"⟩)) ∧
      (answers {} accesses)[3]? = some (.error (.credential (.noKey "partner"))) ∧
      ∀ later, answers (after {} ([opening] ++ [failing])) later =
        answers (after {} [opening]) later := by
  obtain ⟨htold, -⟩ := answers_of_last_opened accesses
  have hopening : opening.opened? ≠ none := by decide +kernel
  have hfailing : failing.opened? = none := by decide +kernel
  refine ⟨hopening, hfailing, ?certificate, ?key, ?later⟩
  case certificate =>
    have hlast : (lastOpened (accesses.take 2)).bind
        (fun file => file.2.certificateNamed? "Partner") = some ⟨"P2"⟩ := by
      decide +kernel
    rw [htold 2]
    show some (told (lastOpened (accesses.take 2)) (.certificate "Partner")) = _
    simp only [told, hlast]
  case key =>
    have hlast : (lastOpened (accesses.take 3)).bind
        (fun file => file.2.keyNamed? "partner") = none := by
      decide +kernel
    rw [htold 3]
    show some (told (lastOpened (accesses.take 3)) (.privateKey "partner")) = _
    simp only [told, hlast]
  case later =>
    obtain ⟨-, -, -, hfailed, -⟩ := answers_of_last_opened [opening]
    exact fun later => hfailed failing later hfailing

end As2Exchange.KeyStore
