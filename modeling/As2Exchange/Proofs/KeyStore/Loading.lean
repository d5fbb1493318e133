import As2Exchange.KeyStore.Basic
import As2Exchange.Proofs.Failure.Result
import As2Exchange.Proofs.Lookup

/-!
# Loaded key stores

What a key store that was loaded from a file answers, told by the entries of the file alone.

- `FriendlyName.isCalled` compares the name of an entry with an alias, in any letter case;
- `KeyFile.certificateNamed?` and `KeyFile.keyNamed?` are what stands under an alias in a file;
- `certificate_ofFile` and `privateKey_ofFile` say that a loaded store finds just that;
- `opened?` is the file that a loading opens, and `load_eq_ok` says that the loading succeeds with
  what is in it.
-/

namespace As2Exchange

/-- A store that opens with a single password, whatever its file holds. -/
def KeyFile.lockedWith (password : String) (file : KeyFile) (_ : Bytes) (word : Option Bytes) :
    Except Raised KeyFile :=
  if word = some (Charset.Utf8.encode password.toList) then .ok file
  else .error ⟨"ValueError", ["Exception"], "Invalid password or PKCS12 data"⟩

/-! ## Names of entries -/

namespace FriendlyName

/-- The text that the bytes of a name are, if they are one. -/
def text? (name : FriendlyName) : Option String :=
  (Charset.Utf8.decodeStrict name.bytes).toOption.map String.ofList

/-- Whether the name is a text that equals the alias, both in lower case. -/
def isCalled (name : FriendlyName) (label : String) : Bool :=
  name.text?.map Text.lower = some (Text.lower label)

end FriendlyName

namespace KeyFile

/-- The last certificate under an alias; the store's own certificate comes first. -/
def certificateNamed? (file : KeyFile) (label : String) : Option Credential :=
  (file.entries.filter fun entry => entry.1.isCalled label).getLast?.map (·.2)

/-- The private key, if there is an own certificate under the alias. -/
def keyNamed? (file : KeyFile) (label : String) : Option Credential :=
  if file.ownCertificate?.isSome && file.ownAlias.isCalled label then file.key else none

/-- Whether the names of all entries are texts. -/
def isLegible (file : KeyFile) : Bool := file.entries.all fun entry => entry.1.text?.isSome

end KeyFile

namespace KeyStore

variable {name : FriendlyName} {label : String}

theorem aliasOf_eq_ok : aliasOf name = .ok label ↔ name.text?.map Text.lower = some label := by
  unfold aliasOf FriendlyName.text?
  cases Charset.Utf8.decodeStrict name.bytes with
  | error broken => simp [Except.toOption]
  | ok text => simp [Except.toOption]

theorem aliasOf_isOk : (aliasOf name).isOk = name.text?.isSome := by
  unfold aliasOf FriendlyName.text?
  cases Charset.Utf8.decodeStrict name.bytes with
  | error broken => rfl
  | ok text => rfl

/-- An alias is compared with the one in lower case. -/
theorem isCalled_eq {asked : String} (h : aliasOf name = .ok label) :
    name.isCalled asked = decide (Text.lower asked = label) := by
  have htext := aliasOf_eq_ok.1 h
  simp only [FriendlyName.isCalled, htext, Option.some_inj, eq_comm]

theorem aliasOf_eq_error {failure : Failure} : aliasOf name = .error failure ↔
    ∃ broken, Charset.Utf8.decodeStrict name.bytes = .error broken ∧
      failure = .charset (.undecodable broken.start broken.bytes broken.fault) := by
  unfold aliasOf
  cases Charset.Utf8.decodeStrict name.bytes with
  | error broken =>
    constructor
    · intro h
      cases h
      exact ⟨broken, rfl, rfl⟩
    · rintro ⟨_, hbroken, rfl⟩
      cases hbroken
      rfl
  | ok text =>
    constructor
    · intro h
      cases h
    · rintro ⟨_, hbroken, -⟩
      cases hbroken

theorem underAlias_eq_ok {entry : FriendlyName × Credential} {told : String × Credential} :
    underAlias entry = .ok told ↔ aliasOf entry.1 = .ok told.1 ∧ entry.2 = told.2 := by
  unfold underAlias
  rw [bind_eq_ok]
  constructor
  · rintro ⟨label, hlabel, h⟩
    cases h
    exact ⟨hlabel, rfl⟩
  · rintro ⟨hlabel, hcredential⟩
    refine ⟨told.1, hlabel, ?_⟩
    rw [hcredential]
    rfl

theorem underAlias_eq_error {entry : FriendlyName × Credential} {failure : Failure} :
    underAlias entry = .error failure ↔ aliasOf entry.1 = .error failure := by
  unfold underAlias
  rw [bind_eq_error]
  constructor
  · rintro (h | ⟨label, -, h⟩)
    · exact h
    · cases h
  · exact .inl

theorem underAlias_isOk (entry : FriendlyName × Credential) :
    (underAlias entry).isOk = entry.1.text?.isSome := by
  rw [← aliasOf_isOk]
  unfold underAlias
  cases aliasOf entry.1 <;> rfl

/-! ## Entries -/

/-- Of several credentials under an alias the last one counts. -/
theorem find?_cons (entry : String × Credential) (rest : List (String × Credential))
    (label : String) :
    find? (entry :: rest) label =
      (find? rest label).or (if Text.lower label = entry.1 then some entry.2 else none) := by
  unfold find?
  rw [List.reverse_cons, List.lookup_append, lookup_cons_eq]
  rfl

/-- Looking an alias up among entries that have been read finds the last one under it. -/
theorem find?_mapM {entries : List (FriendlyName × Credential)}
    {credentials : List (String × Credential)} (h : entries.mapM underAlias = .ok credentials)
    (label : String) :
    find? credentials label =
      (entries.filter fun entry => entry.1.isCalled label).getLast?.map (·.2) := by
  induction entries generalizing credentials with
  | nil =>
    cases h
    rfl
  | cons entry entries ih =>
    obtain ⟨told, rest, htold, hrest, rfl⟩ := mapM_cons_eq_ok.1 h
    obtain ⟨halias, hcredential⟩ := underAlias_eq_ok.1 htold
    rw [find?_cons, ih hrest, List.filter_cons, isCalled_eq halias, ← hcredential]
    -- an entry counts only if none of the later ones has the alias
    cases hlast : (entries.filter fun entry => entry.1.isCalled label).getLast? with
    | some last =>
      by_cases hcalled : Text.lower label = told.1
      · simp [hcalled, List.getLast?_cons, hlast]
      · simp [hcalled, hlast]
    | none =>
      by_cases hcalled : Text.lower label = told.1
      · simp [hcalled, List.getLast?_cons, hlast]
      · simp [hcalled, hlast]

/-- Entries can be read just if all their names are texts. -/
theorem mapM_underAlias_isOk (entries : List (FriendlyName × Credential)) :
    (entries.mapM underAlias).isOk = entries.all fun entry => entry.1.text?.isSome := by
  rw [mapM_isOk]
  exact List.all_congr rfl underAlias_isOk

/-! ## Stores -/

variable {place : PathName} {file : KeyFile} {store : KeyStore}

theorem ofFile_eq_ok : ofFile place file = .ok store ↔
    store.file = some place ∧ certificatesOf file = .ok store.certificates ∧
      privateKeysOf file = .ok store.privateKeys := by
  unfold ofFile
  constructor
  · intro h
    obtain ⟨certificates, hcertificates, h⟩ := bind_eq_ok.1 h
    obtain ⟨keys, hkeys, h⟩ := bind_eq_ok.1 h
    cases h
    exact ⟨rfl, hcertificates, hkeys⟩
  · rintro ⟨hfile, hcertificates, hkeys⟩
    refine bind_eq_ok.2 ⟨_, hcertificates, bind_eq_ok.2 ⟨_, hkeys, ?_⟩⟩
    rw [← hfile]
    rfl

/-- The name of the own certificate is the first one that is read. -/
theorem aliasOf_own {certificates : List (String × Credential)}
    (h : certificatesOf file = .ok certificates) (hown : file.ownCertificate?.isSome = true) :
    ∃ label, aliasOf file.ownAlias = .ok label := by
  obtain ⟨certificate, hcertificate⟩ := Option.isSome_iff_exists.1 hown
  unfold certificatesOf KeyFile.entries at h
  rw [hcertificate] at h
  obtain ⟨told, rest, htold, -, -⟩ := mapM_cons_eq_ok.1 h
  exact ⟨told.1, (underAlias_eq_ok.1 htold).1⟩

theorem privateKeysOf_of_own {label : String} {key : Credential}
    (hown : file.ownCertificate?.isSome = true) (hkey : file.key = some key)
    (hlabel : aliasOf file.ownAlias = .ok label) :
    privateKeysOf file = .ok [(label, key)] := by
  obtain ⟨certificate, hcertificate⟩ := Option.isSome_iff_exists.1 hown
  unfold privateKeysOf
  rw [hcertificate, hkey]
  exact bind_eq_ok.2 ⟨(label, key), underAlias_eq_ok.2 ⟨hlabel, rfl⟩, rfl⟩

theorem privateKeysOf_of_none (h : file.ownCertificate?.isSome = false ∨ file.key = none) :
    privateKeysOf file = .ok [] := by
  unfold privateKeysOf
  split
  · rename_i hcertificate hkey
    simp [hcertificate, hkey] at h
  · rfl

/-- The key stands under a name that has been read before. -/
theorem privateKeysOf_of_certificates {certificates : List (String × Credential)}
    (h : certificatesOf file = .ok certificates) : ∃ keys, privateKeysOf file = .ok keys := by
  cases hown : file.ownCertificate?.isSome with
  | false => exact ⟨_, privateKeysOf_of_none (.inl hown)⟩
  | true =>
    obtain ⟨label, hlabel⟩ := aliasOf_own h hown
    cases hkey : file.key with
    | none => exact ⟨_, privateKeysOf_of_none (.inr hkey)⟩
    | some key => exact ⟨_, privateKeysOf_of_own hown hkey hlabel⟩

/-- A file is refused just if one of its entries is. -/
theorem ofFile_eq_error {failure : Failure} :
    ofFile place file = .error failure ↔ certificatesOf file = .error failure := by
  unfold ofFile
  rw [bind_eq_error]
  constructor
  · rintro (h | ⟨certificates, hcertificates, h⟩)
    · exact h
    · obtain ⟨keys, hkeys⟩ := privateKeysOf_of_certificates hcertificates
      rw [hkeys] at h
      cases h
  · exact .inl

/-- A file gives a store just if the names of its entries are texts. -/
theorem ofFile_isOk (place : PathName) (file : KeyFile) :
    (ofFile place file).isOk = file.isLegible := by
  have hentries : (certificatesOf file).isOk = file.isLegible :=
    mapM_underAlias_isOk file.entries
  rw [← hentries]
  cases hfile : ofFile place file with
  | error failure =>
    rw [ofFile_eq_error.1 hfile]
    rfl
  | ok store =>
    rw [(ofFile_eq_ok.1 hfile).2.1]
    rfl

theorem find?_certificates (h : ofFile place file = .ok store) (label : String) :
    find? store.certificates label = file.certificateNamed? label :=
  find?_mapM (ofFile_eq_ok.1 h).2.1 label

theorem find?_privateKeys (h : ofFile place file = .ok store) (label : String) :
    find? store.privateKeys label = file.keyNamed? label := by
  obtain ⟨-, hcertificates, hkeys⟩ := ofFile_eq_ok.1 h
  unfold KeyFile.keyNamed?
  cases hown : file.ownCertificate?.isSome with
  | false =>
    rw [privateKeysOf_of_none (.inl hown)] at hkeys
    rw [← Except.ok.inj hkeys]
    rfl
  | true =>
    obtain ⟨own, hlabel⟩ := aliasOf_own hcertificates hown
    cases hkey : file.key with
    | none =>
      rw [privateKeysOf_of_none (.inr hkey)] at hkeys
      rw [← Except.ok.inj hkeys]
      simp [find?]
    | some key =>
      rw [privateKeysOf_of_own hown hkey hlabel] at hkeys
      rw [← Except.ok.inj hkeys, find?_cons, isCalled_eq hlabel]
      by_cases hcalled : Text.lower label = own <;> simp [hcalled, find?]

/-! ## Loading -/

section

variable {surroundings : Surroundings} {path password : Value}

theorem readFile_eq_ok {data : Bytes} : readFile surroundings place = .ok data ↔
    surroundings.files.read (toString place) = .ok data := by
  unfold readFile
  split <;> simp_all

theorem openFile_eq_ok {data : Bytes} {word : Option Bytes} :
    openFile surroundings place data word = .ok file ↔
      surroundings.openStore data word = .ok file := by
  unfold openFile
  cases surroundings.openStore data word with
  | ok file => simp
  | error e =>
    -- an exception never gives a file, whether it is told as it is or not
    refine iff_of_false ?_ nofun
    dsimp only
    split <;> exact nofun

/-- The place and the content of the store file that a loading opens: one that is found and read,
which opens with the password, and whose names are texts. -/
def opened? (surroundings : Surroundings) (path password : Value) :
    Option (PathName × KeyFile) := do
  let path ← (pathOf path).toOption
  let place ← (locate surroundings path).toOption
  let data ← (surroundings.files.read (toString place)).toOption
  let word ← (passwordOf password).toOption
  let file ← (surroundings.openStore data word).toOption
  if file.isLegible then some (place, file) else none

theorem opened?_eq_some : opened? surroundings path password = some (place, file) ↔
    ∃ name data word, pathOf path = .ok name ∧ locate surroundings name = .ok place ∧
      surroundings.files.read (toString place) = .ok data ∧ passwordOf password = .ok word ∧
      surroundings.openStore data word = .ok file ∧ file.isLegible = true := by
  unfold opened?
  constructor
  · intro h
    obtain ⟨name, hname, h⟩ := Option.bind_eq_some_iff.1 h
    obtain ⟨place', hplace, h⟩ := Option.bind_eq_some_iff.1 h
    obtain ⟨data, hdata, h⟩ := Option.bind_eq_some_iff.1 h
    obtain ⟨word, hword, h⟩ := Option.bind_eq_some_iff.1 h
    obtain ⟨file', hfile, h⟩ := Option.bind_eq_some_iff.1 h
    obtain ⟨hlegible, heq⟩ := Option.ite_none_right_eq_some.1 h
    cases heq
    exact ⟨name, data, word, eq_ok_of_toOption hname, eq_ok_of_toOption hplace,
      eq_ok_of_toOption hdata, eq_ok_of_toOption hword, eq_ok_of_toOption hfile, hlegible⟩
  · rintro ⟨name, data, word, hname, hplace, hdata, hword, hfile, hlegible⟩
    simp [hname, hplace, hdata, hword, hfile, hlegible, Except.toOption]

/-- A loading succeeds just if it opens a file, and then with what is in that file. -/
theorem load_eq_ok : load surroundings path password = .ok store ↔
    ∃ place file, opened? surroundings path password = some (place, file) ∧
      ofFile place file = .ok store := by
  unfold load
  constructor
  · intro h
    -- the steps in order: the name, the place, the content, the password, the store in the content
    obtain ⟨name, hname, h⟩ := bind_eq_ok.1 h
    obtain ⟨place, hplace, h⟩ := bind_eq_ok.1 h
    obtain ⟨data, hdata, h⟩ := bind_eq_ok.1 h
    obtain ⟨word, hword, h⟩ := bind_eq_ok.1 h
    obtain ⟨file, hfile, hstore⟩ := bind_eq_ok.1 h
    have hlegible : file.isLegible = true := by
      rw [← ofFile_isOk place, hstore]
      rfl
    exact ⟨place, file, opened?_eq_some.2 ⟨name, data, word, hname, hplace, readFile_eq_ok.1 hdata,
      hword, openFile_eq_ok.1 hfile, hlegible⟩, hstore⟩
  · rintro ⟨place, file, hopened, hstore⟩
    obtain ⟨name, data, word, hname, hplace, hdata, hword, hfile, -⟩ := opened?_eq_some.1 hopened
    refine bind_eq_ok.2 ⟨name, hname, bind_eq_ok.2 ⟨place, hplace, ?_⟩⟩
    refine bind_eq_ok.2 ⟨data, readFile_eq_ok.2 hdata, bind_eq_ok.2 ⟨word, hword, ?_⟩⟩
    exact bind_eq_ok.2 ⟨file, openFile_eq_ok.2 hfile, hstore⟩

/-- A loading that opens no file fails. -/
theorem load_of_not_opened
    (h : opened? surroundings path password = none) :
    ∃ failure, load surroundings path password = .error failure := by
  cases hload : load surroundings path password with
  | error failure => exact ⟨failure, rfl⟩
  | ok store =>
    obtain ⟨place, file, hopened, -⟩ := load_eq_ok.1 hload
    rw [h] at hopened
    cases hopened

/-- A loading that opens a file gives what is in it. -/
theorem load_of_opened
    (h : opened? surroundings path password = some (place, file)) :
    ∃ store, load surroundings path password = .ok store ∧ ofFile place file = .ok store := by
  obtain ⟨-, -, -, -, -, -, -, -, hlegible⟩ := opened?_eq_some.1 h
  rw [← ofFile_isOk place] at hlegible
  cases hstore : ofFile place file with
  | error failure =>
    rw [hstore] at hlegible
    cases hlegible
  | ok store => exact ⟨store, load_eq_ok.2 ⟨place, file, h, hstore⟩, rfl⟩

end

end KeyStore

end As2Exchange
