import As2Exchange.Proofs.Send.Confirmed
import As2Exchange.Proofs.Send.Steps
import As2Exchange.Proofs.Sender.Shelf

/-!
# Sends in a row

Sends that share a sender and a supply do not show in one another. Each one is the same as if it
were performed alone, with the numbers that the earlier ones have drawn and the replies to their
posts taken off the supply. What the sender holds of the earlier ones stays, and nobody sees it.

- `Supply.Alike` relates supplies from which a send draws the same;
- `Sender.Steady` says of a sender that it takes one reply for each of its posts, and that what it
  holds shows in nothing else;
- `send_congr`, `send_blind`, `supply_send` and `kept_send` are the step: what a send draws from the
  supply and from what is held, and what it leaves of them;
- `sendAll_independent` is the run, by induction on the orders.
-/

namespace As2Exchange

/-! ## Supplies -/

namespace Supply

/-- The supply after so many numbers and so many replies. -/
def advance (supply : Supply) (numbers replies : Nat) : Supply :=
  ⟨supply.unique + numbers, supply.network.drop replies⟩

/-- The supplies have the same replies and the same numbers, which start over at a limit. -/
structure Alike (left right : Supply) : Prop where
  unique : left.unique % uniqueLimit = right.unique % uniqueLimit
  network : left.network = right.network

theorem Alike.refl (supply : Supply) : supply.Alike supply := ⟨rfl, rfl⟩

theorem Alike.trans {first second third : Supply} (h : first.Alike second)
    (h' : second.Alike third) : first.Alike third :=
  ⟨h.unique.trans h'.unique, h.network.trans h'.network⟩

theorem Alike.advance {left right : Supply} (h : left.Alike right) (numbers replies : Nat) :
    (left.advance numbers replies).Alike (right.advance numbers replies) where
  unique := by
    show (left.unique + numbers) % uniqueLimit = (right.unique + numbers) % uniqueLimit
    rw [Nat.add_mod, h.unique, ← Nat.add_mod]
  network := congrArg (List.drop replies) h.network

theorem advance_advance (supply : Supply) (n m numbers replies : Nat) :
    (supply.advance n m).advance numbers replies = supply.advance (n + numbers) (m + replies) := by
  unfold advance
  rw [List.drop_drop, Nat.add_assoc]

end Supply

/-! ## Numbers -/

/-- A number is used up just if there is a destination and there are both identifiers. -/
theorem Message.usesStamp_eq (p : Partnership) : Message.usesStamp p =
    ((given? (p.attribute? Key.url)).isSome && (given? (p.senderId? Key.as2Id)).isSome &&
      (given? (p.receiverId? Key.as2Id)).isSome) := by
  unfold usesStamp route
  cases given? (p.attribute? Key.url) with
  | none => rfl
  | some url =>
    cases given? (p.senderId? Key.as2Id) with
    | none => rfl
    | some sender =>
      cases given? (p.receiverId? Key.as2Id) with
      | none => rfl
      | some receiver => rfl

namespace Order

/-- The order has a partnership with a destination and both identifiers. -/
def routed (order : Order) : Bool :=
  match order.settings.partnership with
  | .ok p =>
    (Message.given? (p.attribute? Key.url)).isSome &&
      (Message.given? (p.senderId? Key.as2Id)).isSome &&
      (Message.given? (p.receiverId? Key.as2Id)).isSome
  | .error _ => false

theorem routed_of_ok {order : Order} {p : Partnership} (h : order.settings.partnership = .ok p) :
    order.routed = Message.usesStamp p := by
  unfold routed
  rw [h, Message.usesStamp_eq]

theorem routed_of_error {order : Order} {failure : Failure}
    (h : order.settings.partnership = .error failure) : order.routed = false := by
  unfold routed
  rw [h]

/-- An order takes one number if it is routed, and none otherwise. -/
theorem drawn_alike (order : Order) (supply : Supply) :
    (order.drawn supply).Alike (supply.advance (if order.routed then 1 else 0) 0) := by
  unfold drawn
  cases hp : order.settings.partnership with
  | error failure =>
    rw [routed_of_error hp]
    exact .refl supply
  | ok p =>
    rw [routed_of_ok hp]
    dsimp only
    unfold Supply.afterAssembly
    split
    · exact ⟨Nat.mod_mod _ _, rfl⟩
    · exact .refl supply

/-- Stamps are made of the number that comes next, up to the limit. -/
theorem message_congr [Template.Objects] {left right : Supply} (h : left.Alike right)
    (order : Order) (surroundings : Surroundings) :
    order.message surroundings left = order.message surroundings right := by
  unfold message Supply.stamp
  rw [h.unique]

end Order

/-! ## Senders that hold messages -/

/-- A sender that shares nothing between its sends but the network, and the messages that it
keeps. -/
structure Sender.Steady (sender : Shelf → Sender) : Prop where
  /-- One reply is taken off the network for each post. -/
  frugal : ∀ shelf message session network,
    (sender shelf message session network).network =
      network.drop (sender shelf message session network).posts.length
  /-- What is held before shows in nothing but in what is held afterwards. -/
  blind : ∀ shelf shelf' message session network,
    { sender shelf message session network with shelf? := none } =
      { sender shelf' message session network with shelf? := none }
  /-- What is kept comes behind what was kept before. -/
  adds : ∀ {shelf : Shelf}, shelf.Sound → ∀ message session network,
    let after := (sender shelf message session network).shelf?.getD shelf
    after.Sound ∧ after.kept =
      shelf.kept ++ ((sender {} message session network).shelf?.getD {}).kept

namespace Sender

/-- A sender that posts nothing: it does as it likes with the message, and may fail. -/
def acting (act : Message → Session → Message × Option Failure) : Sender :=
  fun message session network =>
    { message := (act message session).1, session, network, failure := (act message session).2 }

/-- The senders that are at hand. Only the loopback sender holds anything. -/
inductive Ordinary [Codecs] [Mime.Nesting] : (Shelf → Sender) → Prop where
  | http (timeout : Double) : Ordinary fun _ => http timeout
  | loopback : Ordinary loopback
  | acting (act : Message → Session → Message × Option Failure) : Ordinary fun _ => acting act

/-- The HTTP sender takes a reply off the network for each of its posts, and holds nothing. -/
theorem http_leaves [Codecs] [Mime.Nesting] (timeout : Double) (message : Message)
    (session : Session) (network : Network) :
    let left := http timeout message session network
    left.network = network.drop left.posts.length ∧ left.shelf? = none := by
  unfold http
  cases Message.given? message.destination? with
  | none => exact ⟨rfl, rfl⟩
  | some url =>
    dsimp only
    cases prepare (complete message session).1 (complete message session).2 with
    | error failure => exact ⟨rfl, rfl⟩
    | ok sent =>
      obtain ⟨receipt, failure, hexchange⟩ := exchange_eq timeout url sent
        (complete message session).1 (complete message session).2 network
      dsimp only
      rw [hexchange]
      exact ⟨rfl, rfl⟩

/-- A sender that holds nothing is steady if it takes one reply for each post. -/
theorem Steady.of_leaves {sender : Sender}
    (h : ∀ message session network, let left := sender message session network
      left.network = network.drop left.posts.length ∧ left.shelf? = none) :
    Steady fun _ => sender where
  frugal _ message session network := (h message session network).1
  blind _ _ _ _ _ := rfl
  adds := by
    intro shelf hsound message session network
    dsimp only
    rw [(h message session network).2]
    exact ⟨hsound, (List.append_nil _).symm⟩

theorem steady_loopback : Steady loopback where
  frugal shelf message session network := by
    rw [loopback_eq]
    rfl
  blind shelf shelf' message session network := by
    rw [loopback_eq, loopback_eq]
  adds := by
    intro shelf hsound message session network
    rw [loopback_eq, loopback_eq]
    exact ⟨hsound.withSent _, hsound.kept_withSent _⟩

theorem Ordinary.steady [Codecs] [Mime.Nesting] {sender : Shelf → Sender} (h : Ordinary sender) :
    Steady sender := by
  cases h with
  | http timeout => exact .of_leaves (http_leaves timeout)
  | loopback => exact steady_loopback
  | acting act => exact .of_leaves fun _ _ _ => ⟨rfl, rfl⟩

end Sender

/-! ## One send -/

/-- What a send tells, and what it posts. -/
def Outcome.told (outcome : Outcome) : Except Failure Response × List Post :=
  (outcome.response, outcome.posts)

/-- The number of posts of several sends. -/
def postCount (outcomes : List Outcome) : Nat := (outcomes.flatMap (·.posts)).length

theorem postCount_cons (outcome : Outcome) (outcomes : List Outcome) :
    postCount (outcome :: outcomes) = outcome.posts.length + postCount outcomes := by
  simp [postCount]

/-- What is held after one send more. -/
theorem Shelf.after_take_succ {outcomes : List Outcome} {k : Nat} {outcome : Outcome}
    (h : outcomes[k]? = some outcome) (shelf : Shelf) :
    shelf.after (outcomes.take (k + 1)) =
      outcome.shelf?.getD (shelf.after (outcomes.take k)) := by
  unfold Shelf.after
  rw [List.take_add_one, h, List.foldl_append]
  rfl

section

variable {surroundings : Surroundings} {left right : Supply}

/-- What is left of the supply is all that depends on the numbers in it. -/
theorem transmit_congr (h : left.network = right.network) (c : Collector) (sender : Sender)
    (message : Message) (session : Session) (supply : Supply) :
    { transmit c sender message session left with supply } =
      { transmit c sender message session right with supply } := by
  unfold transmit
  rw [h]
  dsimp only
  split
  · rfl
  · rfl

variable {sender : Shelf → Sender}

/-- A transmission does not depend on what the sender holds. -/
theorem transmit_blind (hsender : Sender.Steady sender) (shelf shelf' : Shelf) (c : Collector)
    (message : Message) (session : Session) (supply : Supply) :
    { transmit c (sender shelf) message session supply with shelf? := none } =
      { transmit c (sender shelf') message session supply with shelf? := none } := by
  have hblind := hsender.blind shelf shelf' message session supply.network
  have hmessage := congrArg Delivery.message hblind
  have hposts := congrArg Delivery.posts hblind
  have hnetwork := congrArg Delivery.network hblind
  have hfailure := congrArg Delivery.failure hblind
  dsimp only at hmessage hposts hnetwork hfailure
  unfold transmit
  rw [Sender.handle_send, Sender.handle_send]
  dsimp only
  rw [hmessage, hfailure]
  split
  · unfold Outcome.late
    dsimp only
    rw [hposts, hnetwork]
  · unfold Outcome.late
    dsimp only
    rw [hposts, hnetwork]

/-- What a transmission leaves with the sender is what the sender leaves there. -/
theorem shelf?_transmit (c : Collector) (sender : Sender) (message : Message) (session : Session)
    (supply : Supply) :
    (transmit c sender message session supply).shelf? =
      (sender message session supply.network).shelf? := by
  unfold transmit
  rw [Sender.handle_send]
  dsimp only
  split
  · rfl
  · rfl

/-- A transmission takes nothing off the supply but the replies to its posts. -/
theorem supply_transmit (hsender : Sender.Steady sender) (shelf : Shelf) (c : Collector)
    (message : Message) (session : Session) (supply : Supply) :
    let outcome := transmit c (sender shelf) message session supply
    outcome.supply = supply.advance 0 outcome.posts.length := by
  have hnetwork := hsender.frugal shelf message session supply.network
  unfold transmit
  dsimp only
  split
  · exact congrArg (Supply.mk supply.unique) hnetwork
  · exact congrArg (Supply.mk supply.unique) hnetwork

variable [Template.Objects]

/-- Sends from supplies alike differ in nothing but what they leave of them. -/
theorem send_congr (surroundings : Surroundings) (h : left.Alike right) (sender : Sender)
    (order : Order) (supply : Supply) :
    { send surroundings sender order left with supply } =
      { send surroundings sender order right with supply } := by
  have hdrawn : (order.drawn left).network = (order.drawn right).network := by
    rw [Order.drawn_network, Order.drawn_network, h.network]
  rw [send_eq, send_eq, Order.message_congr h]
  split
  · rfl
  · split
    · rfl
    · exact transmit_congr hdrawn _ _ _ _ _

/-- A send does not depend on what the sender holds. -/
theorem send_blind (surroundings : Surroundings) (hsender : Sender.Steady sender)
    (shelf shelf' : Shelf) (order : Order) (supply : Supply) :
    { send surroundings (sender shelf) order supply with shelf? := none } =
      { send surroundings (sender shelf') order supply with shelf? := none } := by
  rw [send_eq, send_eq]
  split
  · rfl
  · split
    · rfl
    · exact transmit_blind hsender shelf shelf' _ _ _ _

theorem told_send_congr (hsender : Sender.Steady sender) (h : left.Alike right)
    (shelf shelf' : Shelf) (order : Order) :
    (send surroundings (sender shelf) order left).told =
      (send surroundings (sender shelf') order right).told := by
  have hsupply := congrArg Outcome.told (send_congr surroundings h (sender shelf) order left)
  have hheld := congrArg Outcome.told (send_blind surroundings hsender shelf shelf' order right)
  exact hsupply.trans hheld

/-- What a send keeps comes behind what was kept before. -/
theorem kept_send (surroundings : Surroundings) (hsender : Sender.Steady sender) {shelf : Shelf}
    (hshelf : shelf.Sound) (order : Order) (supply : Supply) :
    let after := (send surroundings (sender shelf) order supply).shelf?.getD shelf
    after.Sound ∧
      after.kept = shelf.kept ++ (send surroundings (sender {}) order supply).kept := by
  unfold Outcome.kept
  rw [send_eq, send_eq]
  -- a send that ends early leaves what is held as it is
  split
  · exact ⟨hshelf, (List.append_nil _).symm⟩
  · split
    · exact ⟨hshelf, (List.append_nil _).symm⟩
    · dsimp only
      rw [shelf?_transmit, shelf?_transmit]
      exact hsender.adds hshelf _ _ _

/-- A send takes a number if its order is routed, and a reply for each of its posts. -/
theorem supply_send (surroundings : Surroundings) (hsender : Sender.Steady sender) (shelf : Shelf)
    (order : Order) (supply : Supply) :
    let outcome := send surroundings (sender shelf) order supply
    outcome.supply.Alike
      (supply.advance (if order.routed then 1 else 0) outcome.posts.length) := by
  have hdrawn := order.drawn_alike supply
  -- the replies are taken after the number
  have hposted : ∀ replies, ((order.drawn supply).advance 0 replies).Alike
      (supply.advance (if order.routed then 1 else 0) replies) := by
    intro replies
    have hsum := hdrawn.advance 0 replies
    rw [Supply.advance_advance, Nat.add_zero, Nat.zero_add] at hsum
    exact hsum
  rw [send_eq]
  split
  · exact hdrawn
  · split
    · exact hdrawn
    · dsimp only
      rw [supply_transmit hsender]
      exact hposted _

/-! ## Sends in a row -/

/-- Each send is performed by the sender as the sends before it have left it, and with a supply like
the first one, with the numbers and the replies of those sends taken off. -/
theorem sendAll_getElem? (hsender : Sender.Steady sender) (orders : List Order) {shelf : Shelf}
    (hshelf : shelf.Sound) (supply : Supply) (k : Nat) :
    let outcomes := sendAll surroundings sender orders shelf supply
    let held := shelf.after (outcomes.take k)
    held.Sound ∧ ∃ before : Supply,
      before.Alike (supply.advance ((orders.take k).countP Order.routed)
        (postCount (outcomes.take k))) ∧
      outcomes[k]? = orders[k]?.map fun order => send surroundings (sender held) order before := by
  induction orders generalizing shelf supply k with
  | nil => exact ⟨by simpa [sendAll, Shelf.after] using hshelf, _, .refl _, rfl⟩
  | cons order orders ih =>
    cases k with
    | zero => exact ⟨hshelf, supply, .refl supply, rfl⟩
    | succ k =>
      -- the others start from what the first send has left
      have hleft := (kept_send surroundings hsender hshelf order supply).1
      obtain ⟨hheld, before, hbefore, hothers⟩ :=
        ih hleft (send surroundings (sender shelf) order supply).supply k
      refine ⟨hheld, before, hbefore.trans ?_, hothers⟩
      have hsupply := (supply_send surroundings hsender shelf order supply).advance
        ((orders.take k).countP Order.routed)
        (postCount ((sendAll surroundings sender orders
          ((send surroundings (sender shelf) order supply).shelf?.getD shelf)
          (send surroundings (sender shelf) order supply).supply).take k))
      rw [Supply.advance_advance] at hsupply
      rw [sendAll, List.take_succ_cons, List.take_succ_cons, List.countP_cons, postCount_cons,
        Nat.add_comm (List.countP _ _)]
      exact hsupply

end

/-- **Sends in a row are independent.** The k-th of several sends through one sender tells and posts
the same as if it were performed alone, with as many numbers taken as orders before it were routed,
and as many replies as there were posts before it; it does not matter what the sender holds. It
takes one number itself just if its order is routed, and a reply for each of its posts; and the
sender keeps what it would keep of this send alone, behind all that it has kept. -/
theorem sendAll_independent [Codecs] [Mime.Nesting] [Template.Objects] {sender : Shelf → Sender}
    (hsender : Sender.Ordinary sender) (surroundings : Surroundings) (orders : List Order)
    {shelf : Shelf} (hshelf : shelf.Sound) (supply : Supply) (k : Nat) :
    let outcomes := sendAll surroundings sender orders shelf supply
    let before := supply.advance ((orders.take k).countP Order.routed)
      (postCount (outcomes.take k))
    (∀ held, outcomes[k]?.map Outcome.told =
        orders[k]?.map fun order => (send surroundings (sender held) order before).told) ∧
      ∀ order outcome, orders[k]? = some order → outcomes[k]? = some outcome →
        outcome.supply.Alike
          (before.advance (if order.routed then 1 else 0) outcome.posts.length) ∧
        (shelf.after (outcomes.take (k + 1))).kept = (shelf.after (outcomes.take k)).kept ++
          (send surroundings (sender {}) order before).kept := by
  have hsteady := hsender.steady
  obtain ⟨hheld, drawn, hdrawn, houtcome⟩ :=
    @sendAll_getElem? surroundings sender _ hsteady orders shelf hshelf supply k
  dsimp only
  constructor
  · intro held
    rw [houtcome, Option.map_map]
    exact Option.map_congr fun order _ => told_send_congr hsteady hdrawn _ held order
  · intro order outcome horder hsent
    have hafter := Shelf.after_take_succ hsent shelf
    rw [houtcome, horder] at hsent
    cases hsent
    refine ⟨(supply_send surroundings hsteady _ order drawn).trans (hdrawn.advance _ _), ?_⟩
    have hkept := congrArg Outcome.kept
      (send_congr surroundings hdrawn (sender {}) order drawn)
    rw [hafter, (kept_send surroundings hsteady hheld order drawn).2]
    exact congrArg (_ ++ ·) hkept

namespace HonestPartner

/-- The transport fails at the first post; the partner answers the second one. -/
def replies : Network := [.failure ⟨.transport, "ConnectionError", some "reset"⟩, .answer {}]

attribute [local instance] Codecs.empty Template.Objects.kinds

/-- The same order twice. -/
def orders : List Order := [order plainFormat, order plainFormat]

end HonestPartner

open HonestPartner

attribute [local instance] Codecs.empty Mime.Nesting.thousand Template.Objects.kinds

/-- The second of two sends is not touched by the failure of the post of the first one. -/
theorem sendAll_independent_second :
    Sender.Ordinary (fun _ => Sender.http Sender.defaultTimeout) ∧ Shelf.Sound {} ∧
      ((sendAll surroundings (fun _ => Sender.http Sender.defaultTimeout) orders {}
          ⟨1, replies⟩)[1]?).map Outcome.told =
        some (send surroundings (Sender.http Sender.defaultTimeout) (order plainFormat)
          ⟨2, replies.drop 1⟩).told := by
  have hsender : Sender.Ordinary fun _ => Sender.http Sender.defaultTimeout :=
    .http Sender.defaultTimeout
  obtain ⟨hsecond, -⟩ :=
    sendAll_independent hsender surroundings orders Shelf.Sound.empty ⟨1, replies⟩ 1
  refine ⟨hsender, .empty, (hsecond {}).trans ?_⟩
  -- the first order takes a number, and its post a reply
  have hnumbers : (orders.take 1).countP Order.routed = 1 := by decide +kernel
  have hposts : postCount ((sendAll surroundings (fun _ => Sender.http Sender.defaultTimeout)
      orders {} ⟨1, replies⟩).take 1) = 1 := by
    decide +kernel
  rw [hnumbers, hposts]
  rfl

end As2Exchange
