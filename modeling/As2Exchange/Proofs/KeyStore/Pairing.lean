import As2Exchange.Proofs.KeyStore.Loading

/-!
# Keys and their certificates

The private key of a store belongs to the store's own certificate, and both are found under the
alias of that certificate. A further certificate under the same alias, in whatever letter case,
takes the place of the own one, while the key stays.

- `KeyFile.rivals` are the certificates that can take the place;
- `KeyFile.certificateNamed?_own` says which certificate is found beside the key;
- `KeyStore.privateKey_paired_iff` says of a loaded store when it is the one of the key.
-/

namespace As2Exchange

/-! ## Entries under one alias -/

namespace FriendlyName

/-- Whether two names stand for the same alias. -/
def sharesAlias (name other : FriendlyName) : Bool :=
  name.text?.map Text.lower = other.text?.map Text.lower

theorem isCalled_eq_sharesAlias {name : FriendlyName} {label : String}
    (h : name.isCalled label = true) (other : FriendlyName) :
    other.isCalled label = other.sharesAlias name := by
  have htext : name.text?.map Text.lower = some (Text.lower label) := of_decide_eq_true h
  rw [isCalled, sharesAlias, htext]

/-- A name that is a text is called by that text. -/
theorem isCalled_text {name : FriendlyName} {text : String} (h : name.text? = some text) :
    name.isCalled text = true := by
  rw [isCalled, h]
  exact decide_eq_true rfl

end FriendlyName

namespace KeyFile

/-- The additional certificates under the alias of the store's own one. -/
def rivals (file : KeyFile) : List Credential :=
  (file.additional.filter fun entry => entry.1.sharesAlias file.ownAlias).map (·.2)

variable {file : KeyFile} {own key : Credential} {label : String}

/-- A store with an own certificate has its key. -/
theorem ownCertificate?_eq_some :
    file.ownCertificate? = some own ↔ file.key.isSome = true ∧ file.certificate = some own := by
  unfold ownCertificate?
  split
  · rename_i hkey
    simp [hkey]
  · rename_i hkey
    simp [hkey]

theorem entries_of_own (h : file.ownCertificate? = some own) :
    file.entries = (file.ownAlias, own) :: file.additional := by
  obtain ⟨hkey, hcertificate⟩ := ownCertificate?_eq_some.1 h
  obtain ⟨key, hkey⟩ := Option.isSome_iff_exists.1 hkey
  unfold entries others
  rw [h, hkey, hcertificate]
  rfl

/-- The last of the rivals is found in the place of the own certificate. -/
theorem certificateNamed?_own (h : file.ownCertificate? = some own)
    (hcalled : file.ownAlias.isCalled label = true) :
    file.certificateNamed? label = some (file.rivals.getLast?.getD own) := by
  -- a name called by the label shares the alias, so both ways to select certificates are one
  have hrivals : (file.additional.filter fun entry => entry.1.isCalled label).map (·.2) =
      file.rivals := by
    simp only [FriendlyName.isCalled_eq_sharesAlias hcalled, rivals]
  unfold certificateNamed?
  rw [entries_of_own h, List.filter_cons, if_pos hcalled, ← List.getLast?_map, List.map_cons,
    hrivals, List.getLast?_cons]

theorem keyNamed?_eq_some : file.keyNamed? label = some key ↔
    file.ownCertificate?.isSome = true ∧ file.ownAlias.isCalled label = true ∧
      file.key = some key := by
  unfold keyNamed?
  rw [Option.ite_none_right_eq_some, Bool.and_eq_true, and_assoc]

end KeyFile

namespace KeyStore

/-! ## Lookups in a loaded store -/

section

variable {store : KeyStore} {place : PathName} {file : KeyFile} {label : String}
  {credential own : Credential}

theorem certificate_eq_ok (h : ofFile place file = .ok store) :
    store.certificate label = .ok credential ↔ file.certificateNamed? label = some credential := by
  unfold certificate
  rw [find?_certificates h]
  cases file.certificateNamed? label <;> simp

theorem privateKey_eq_ok (h : ofFile place file = .ok store) :
    store.privateKey label = .ok credential ↔ file.keyNamed? label = some credential := by
  unfold privateKey
  rw [find?_privateKeys h]
  cases file.keyNamed? label <;> simp

/-- The name of the own certificate of a loaded store is a text. -/
theorem text?_ownAlias (h : ofFile place file = .ok store)
    (hown : file.ownCertificate? = some own) : ∃ text, file.ownAlias.text? = some text := by
  -- a store was made of the file only because the name could be taken for an alias
  obtain ⟨label, hlabel⟩ := aliasOf_own (ofFile_eq_ok.1 h).2.1 (Option.isSome_of_mem hown)
  have htext := aliasOf_eq_ok.1 hlabel
  obtain ⟨text, htext, -⟩ := Option.map_eq_some_iff.1 htext
  exact ⟨text, htext⟩

/-- Where a key is found, so is a certificate: the last rival of the own one, or the own one. -/
theorem certificate_of_privateKey (h : ofFile place file = .ok store)
    (hown : file.ownCertificate? = some own) {key : Credential}
    (hkey : store.privateKey label = .ok key) :
    store.certificate label = .ok (file.rivals.getLast?.getD own) := by
  obtain ⟨-, hcalled, -⟩ := KeyFile.keyNamed?_eq_some.1 ((privateKey_eq_ok h).1 hkey)
  exact (certificate_eq_ok h).2 (KeyFile.certificateNamed?_own hown hcalled)

/-- **When a key stands beside its certificate.** Without an own certificate no key is found. With
one, the key is found under its alias, and so is a certificate: the last rival, or the own one if
there is none. So each key has its own certificate beside it just if no other certificate is the
last one under its alias. -/
theorem privateKey_paired_iff {surroundings : Surroundings} {path password : Value}
    (h : load surroundings path password = .ok store) :
    ∃ place file, opened? surroundings path password = some (place, file) ∧
      (file.ownCertificate? = none → ∀ label key, store.privateKey label ≠ .ok key) ∧
      ∀ own, file.ownCertificate? = some own →
        (∀ label key, store.privateKey label = .ok key ↔
          file.ownAlias.isCalled label = true ∧ file.key = some key) ∧
        (∀ label key, store.privateKey label = .ok key →
          store.certificate label = .ok (file.rivals.getLast?.getD own)) ∧
        ((∀ label key, store.privateKey label = .ok key → store.certificate label = .ok own) ↔
          ∀ rival, file.rivals.getLast? = some rival → rival = own) := by
  obtain ⟨place, file, hopened, hstore⟩ := load_eq_ok.1 h
  refine ⟨place, file, hopened, ?none, fun own hown => ⟨?keys, ?beside, ?paired⟩⟩
  case none =>
    intro hnone label key hkey
    obtain ⟨hsome, -⟩ := KeyFile.keyNamed?_eq_some.1 ((privateKey_eq_ok hstore).1 hkey)
    rw [hnone] at hsome
    cases hsome
  case keys =>
    intro label key
    rw [privateKey_eq_ok hstore, KeyFile.keyNamed?_eq_some, hown]
    simp
  case beside => exact fun label key => certificate_of_privateKey hstore hown
  case paired =>
    constructor
    · intro hpaired rival hrival
      -- the key is found under the name of the own certificate itself
      obtain ⟨text, htext⟩ := text?_ownAlias hstore hown
      obtain ⟨hhas, -⟩ := KeyFile.ownCertificate?_eq_some.1 hown
      obtain ⟨key, hfile⟩ := Option.isSome_iff_exists.1 hhas
      have hkey : store.privateKey text = .ok key :=
        (privateKey_eq_ok hstore).2 (KeyFile.keyNamed?_eq_some.2
          ⟨Option.isSome_of_mem hown, FriendlyName.isCalled_text htext, hfile⟩)
      have hbeside := certificate_of_privateKey hstore hown hkey
      rw [hpaired text key hkey, hrival] at hbeside
      exact (Except.ok.inj hbeside).symm
    · intro hlast label key hkey
      rw [certificate_of_privateKey hstore hown hkey]
      -- without a rival the own certificate is found, and a rival must be the own one again
      cases hrival : file.rivals.getLast? with
      | none => rfl
      | some rival => rw [hlast rival hrival, Option.getD_some]

end

/-! ## A store with a chain, and one with a rival -/

namespace Paired

/-- A store with its own certificate and the additional ones given. -/
def storeFile (additional : List (FriendlyName × Credential)) : KeyFile where
  ownAlias := "me"
  key := some ⟨"ME"⟩
  certificate := some ⟨"ME"⟩
  additional := additional

def surroundings (additional : List (FriendlyName × Credential)) : Surroundings where
  files := { nodes := [(["w", "k.p12"], .file [0x30])], workingDirectory := ⟨"/", ["w"]⟩ }
  clock := ⟨2024, 1, 2, 3, 4, 5⟩
  openStore := (storeFile additional).lockedWith "secret"

/-- Certificates of which none has the alias of the own one; two have no name. -/
def chain : List (FriendlyName × Credential) := [({}, ⟨"CA"⟩), ("them", ⟨"THEM"⟩), ({}, ⟨"ROOT"⟩)]

/-- A certificate under the alias of the own one, in another letter case. -/
def clash : List (FriendlyName × Credential) := [("ME", ⟨"THEM"⟩)]

/-- The certificate and the key that are found under an alias. -/
def found (additional : List (FriendlyName × Credential)) (label : String) :
    Option (Option Credential × Option Credential) :=
  (load (surroundings additional) (.text "k.p12") (.text "secret")).toOption.map fun store =>
    ((store.certificate label).toOption, (store.privateKey label).toOption)

end Paired

open Paired

/-- Beside certificates with other aliases the own one is found with its key. -/
theorem privateKey_paired_chain : ∃ store,
    load (surroundings chain) (.text "k.p12") (.text "secret") = .ok store ∧
      store.privateKey "Me" = .ok ⟨"ME"⟩ ∧ store.certificate "Me" = .ok ⟨"ME"⟩ := by
  have hopened : (opened? (surroundings chain) (.text "k.p12") (.text "secret")).map (·.2) =
      some (storeFile chain) := by
    decide +kernel
  have hrivals : (storeFile chain).rivals = [] := by decide +kernel
  obtain ⟨⟨place, file⟩, hopened', rfl⟩ := Option.map_eq_some_iff.1 hopened
  obtain ⟨store, hload, -⟩ := load_of_opened hopened'
  obtain ⟨_, _, hopened, -, hown⟩ := privateKey_paired_iff hload
  cases hopened'.symm.trans hopened
  obtain ⟨hkeys, -, hpaired⟩ := hown ⟨"ME"⟩ rfl
  have hkey : store.privateKey "Me" = .ok ⟨"ME"⟩ := (hkeys _ _).2 ⟨by decide +kernel, rfl⟩
  refine ⟨store, hload, hkey, hpaired.2 ?_ _ _ hkey⟩
  rw [hrivals]
  exact nofun

/-- A key is found beside the certificate of somebody else. -/
theorem privateKey_unpaired_clash : ∃ store,
    load (surroundings clash) (.text "k.p12") (.text "secret") = .ok store ∧
      (storeFile clash).ownCertificate? = some ⟨"ME"⟩ ∧
      store.privateKey "me" = .ok ⟨"ME"⟩ ∧ store.certificate "me" = .ok ⟨"THEM"⟩ ∧
      ¬ ∀ label key, store.privateKey label = .ok key → store.certificate label = .ok ⟨"ME"⟩ := by
  have hfound : found clash "me" = some (some ⟨"THEM"⟩, some ⟨"ME"⟩) := by decide +kernel
  obtain ⟨store, hload, hfound⟩ := Option.map_eq_some_iff.1 hfound
  obtain ⟨hcertificate, hkey⟩ := Prod.mk.inj hfound
  have hload' := eq_ok_of_toOption hload
  have hkey' := eq_ok_of_toOption hkey
  have hcertificate' := eq_ok_of_toOption hcertificate
  refine ⟨store, hload', rfl, hkey', hcertificate', fun hpaired => ?_⟩
  rw [hpaired "me" ⟨"ME"⟩ hkey'] at hcertificate'
  exact absurd (Except.ok.inj hcertificate') (by decide)

end KeyStore

end As2Exchange
