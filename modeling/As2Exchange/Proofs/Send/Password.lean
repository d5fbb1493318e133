import As2Exchange.Proofs.Send.Confirmed
import As2Exchange.Proofs.Session.Opening

/-!
# The password of the key store

The password is a part of the settings, and the settings flow into the partnership, the message, the
headers and the failures of a send. All that comes out of it is whether it opens the key store: two
sends that differ in nothing but a password come out the same, unless one of the passwords opens the
store and the other does not.

The library that opens stores sees the passwords. What it is supposed to keep to itself is named:

- `Surroundings.Impartial` says that the library tells two passwords apart in nothing but whether
  they open a store;
- `KeyStore.opens` is what a password decides;
- `KeyStore.load_congr` follows it through the loading of the store, `Session.start_congr` through
  the opening of the session, and `send_ignores_password` through the whole send.
-/

namespace As2Exchange

/-- The library that opens stores tells two passwords apart in nothing but whether they open a
store. -/
structure Surroundings.Impartial (surroundings : Surroundings) (word other : Option Bytes) :
    Prop where
  /-- A store that both open holds the same, whichever opens it. -/
  content : ∀ data file file', surroundings.openStore data word = .ok file →
    surroundings.openStore data other = .ok file' → file = file'
  /-- A store that neither opens is refused with the same exception. -/
  refusal : ∀ data e e', surroundings.openStore data word = .error e →
    surroundings.openStore data other = .error e' → e = e'

/-! ## The key store -/

namespace KeyStore

variable {surroundings : Surroundings} {path : Value} {p q : String}

/-- What a loading reads, before it looks at the password. -/
def sought (surroundings : Surroundings) (path : Value) : Except Failure Bytes := do
  readFile surroundings (← locate surroundings (← pathOf path))

/-- Whether a password opens the store at a path. Nothing opens a file that cannot be read. -/
def opens (surroundings : Surroundings) (path : Value) (password : String) : Bool :=
  match sought surroundings path with
  | .ok data => (surroundings.openStore data (wordOf password)).isOk
  | .error _ => false

/-- What is opened, or why it is not, is the same for two words that both open a store, and for two
that both do not. -/
theorem openFile_congr {word other : Option Bytes} (himpartial : surroundings.Impartial word other)
    {data : Bytes} (h : (surroundings.openStore data word).isOk =
      (surroundings.openStore data other).isOk) (place : PathName) :
    openFile surroundings place data word = openFile surroundings place data other := by
  -- of two words of which both open the store or neither does, one is as good as the other
  have hsame : surroundings.openStore data word = surroundings.openStore data other := by
    cases hword : surroundings.openStore data word with
    | ok file =>
      cases hother : surroundings.openStore data other with
      | ok file' => rw [himpartial.content data file file' hword hother]
      | error e' =>
        rw [hword, hother] at h
        cases h
    | error e =>
      cases hother : surroundings.openStore data other with
      | ok file' =>
        rw [hword, hother] at h
        cases h
      | error e' => rw [himpartial.refusal data e e' hword hother]
  unfold openFile
  rw [hsame]

/-- The failures on the way to a store, and those of opening it, are the same for any two passwords
that do not open it; and so is the store for two that do. -/
theorem load_congr (himpartial : surroundings.Impartial (wordOf p) (wordOf q))
    (h : opens surroundings path p = opens surroundings path q) :
    load surroundings path (.text p) = load surroundings path (.text q) := by
  unfold load
  rw [passwordOf_text, passwordOf_text]
  unfold opens sought at h
  -- the steps in order; the password is not looked at before the last one
  cases hname : pathOf path with
  | error failure => rfl
  | ok name =>
    rw [hname] at h
    simp only [bind, Except.bind] at h ⊢
    cases hplace : locate surroundings name with
    | error failure => rfl
    | ok place =>
      rw [hplace] at h
      dsimp only at h ⊢
      cases hdata : readFile surroundings place with
      | error failure => rfl
      | ok data =>
        rw [hdata] at h
        dsimp only at h ⊢
        rw [openFile_congr himpartial h]

end KeyStore

/-! ## The send -/

def Settings.withPassword (settings : Settings) (password : String) : Settings :=
  { settings with keyStorePassword := .text password }

section

variable {surroundings : Surroundings} {p q : String}
  (himpartial : surroundings.Impartial (KeyStore.wordOf p) (KeyStore.wordOf q))

include himpartial

theorem Session.start_congr {settings : Settings}
    (h : KeyStore.opens surroundings settings.keyStorePath p =
      KeyStore.opens surroundings settings.keyStorePath q) (partnershipsFail : Option Foreign) :
    start surroundings (settings.withPassword p) partnershipsFail =
      start surroundings (settings.withPassword q) partnershipsFail := by
  have hload : KeyStore.load surroundings (settings.withPassword p).keyStorePath
      (settings.withPassword p).keyStorePassword =
        KeyStore.load surroundings (settings.withPassword q).keyStorePath
          (settings.withPassword q).keyStorePassword := KeyStore.load_congr himpartial h
  unfold start
  rw [hload]

end

namespace Order

def withPassword (order : Order) (password : String) : Order :=
  { order with settings := order.settings.withPassword password }

section

variable [Template.Objects] (order : Order) (password : String)

/-- The partnership, from which the message and its headers are made, is derived without the
password. -/
@[simp] theorem message_withPassword :
    (order.withPassword password).message = order.message := rfl

end

@[simp] theorem drawn_withPassword (order : Order) (password : String) :
    (order.withPassword password).drawn = order.drawn := rfl

/-- The sender is asked with the same message, in the same session. -/
theorem ready_congr [Template.Objects] {order : Order} {surroundings : Surroundings}
    {p q : String}
    (himpartial : surroundings.Impartial (KeyStore.wordOf p) (KeyStore.wordOf q))
    (h : KeyStore.opens surroundings order.settings.keyStorePath p =
      KeyStore.opens surroundings order.settings.keyStorePath q) (supply : Supply) :
    (order.withPassword p).ready surroundings supply =
      (order.withPassword q).ready surroundings supply := by
  have hstart := Session.start_congr himpartial h order.partnershipsFail
  unfold ready
  rw [message_withPassword, message_withPassword]
  exact congrArg (fun opened => (do
    let message ← order.message surroundings supply
    let session ← opened
    return (message, session))) hstart

end Order

namespace HonestPartner

/-- The working directory with a key store that is not locked: it opens with every password. -/
def unlocked : Surroundings := { surroundings with openStore := fun _ _ => .ok storeFile }

end HonestPartner

attribute [local instance] Codecs.empty Mime.Nesting.thousand Template.Objects.kinds

end As2Exchange
