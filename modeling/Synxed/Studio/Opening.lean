import Synxed.Program.Openings
import Synxed.Sdk.Ensure
import Synxed.Sdk.Readers
import Synxed.Studio.World

/-!
Opening a namespace on a chain that others use too.

Between any two requests of a client the chain grows by whatever anyone sends,
other runs of the same call included, and the node that answers may lag behind.
What `ensureNamespace` returns, sends and throws is read off what the node
showed it (`Client.Showed`), and that off the committed instructions.

* `Cluster.authority_of_read`: what a node shows at the address tells the
  authority written last.
* `opens_of_sent`: a confirmed transaction of the call opened the namespace, and
  nothing else ever does.
* `namespace_ensured`: the call as a whole.
-/

namespace Synxed.Studio

open Synxed.Lib Synxed.Program Synxed.Sdk

variable {D : Deployment} {net : Network}

/-! ### A client of the chain -/

variable (D) in
/-- A transaction that was sent, and the chain as the node saw it when the send
was over. -/
structure Sending where
  instructions : List TransactionInstruction
  signers : List Pubkey
  view : Cluster D

variable (D) in
structure Client (net : Network) where
  cluster : Cluster D
  /-- The chain as the node sees it. -/
  view : Cluster D
  sent : List (Sending D)
  grown : cluster.Grown net
  behind : Cluster.Later net view cluster

namespace Client

/-- What a request may be answered. A confirmed transaction landed, and
succeeded; one that is reported lost may have landed all the same, or may land
later. Where the node is not `lossy` it answers every read. -/
def Answers (lossy : Prop) (w w' : Client D net) : (op : ClientOp) → Except Thrown op.Reply → Prop
  | .rpc call, .ok answer => Truth net w.view call answer
  | .rpc _, .error error => lossy ∧ ∃ text, error = .other text
  | .sendAndConfirm instructions _, .ok signature =>
      ∃ landing ∈ w'.cluster.ledger, landing.transaction.id = signature ∧ landing.error = none ∧
        landing.transaction.instructions = instructions.map compile
  | .sendAndConfirm _ _, .error error => ∃ text, error = .other text

/-- The transactions an operation sends. -/
def sends (view : Cluster D) : ClientOp → List (Sending D)
  | .rpc _ => []
  | .sendAndConfirm instructions signers => [⟨instructions, signers, view⟩]

/-- A request is answered, and time passes. -/
structure step (lossy : Prop) (w : Client D net) (op : ClientOp) (reply : Except Thrown op.Reply)
    (w' : Client D net) : Prop where
  cluster : Cluster.Later net w.cluster w'.cluster
  view : Cluster.Later net w.view w'.view
  sent : w'.sent = w.sent ++ sends w'.view op
  answers : Answers lossy w w' op reply

/-- From one view of the node to another, a read of the address came to this. -/
def Showed (net : Network) (view view' : Cluster D) (address : Pubkey)
    (outcome : Except ProtocolError (Option FetchedNamespace)) : Prop :=
  ∃ seen : Cluster D, Cluster.Later net view seen ∧ Cluster.Later net seen view' ∧
    readNamespace D.programId address (existing (seen.accounts address)) = outcome

end Client

/-! ### What a node shows -/

namespace Cluster

variable {creator : Pubkey} {namespaceId : Bytes32}

/-- The authority of a namespace; `none` when it is not open. -/
def authority (cluster : Cluster D) (creator : Pubkey) (namespaceId : Bytes32) : Option Pubkey :=
  (authoritiesOf D creator namespaceId cluster.log).getLast?

theorem Later.genesis_eq {cluster cluster' : Cluster D} (later : Later net cluster cluster') :
    cluster'.genesis = cluster.genesis := by
  induction later with
  | refl => rfl
  | tail _ next ih =>
      cases next with
      | lands => exact ih
      | block => exact ih
      | finalizes => exact ih

theorem Later.log_subset {cluster cluster' : Cluster D} (later : Later net cluster cluster') :
    cluster.log ⊆ cluster'.log := by
  induction later with
  | refl => exact List.Subset.refl _
  | tail _ next ih =>
      cases next with
      | lands landing =>
          rw [log_lands]
          exact List.Subset.trans ih (List.subset_append_left _ _)
      | block => exact ih
      | finalizes => exact ih

/-- The seeds of the addresses that a chain uses. -/
abbrev seeds (cluster : Cluster D) : Set Bytes :=
  runSeeds D cluster.genesis.accounts cluster.log

theorem Later.seeds_subset {cluster cluster' : Cluster D} (later : Later net cluster cluster') :
    cluster.seeds ⊆ cluster'.seeds := by
  rintro bytes (⟨eventId, flat, owned⟩ | ⟨item, mem, made⟩)
  · refine .inl ⟨eventId, flat, ?_⟩
    rw [later.genesis_eq]
    exact owned
  · exact .inr ⟨item, later.log_subset mem, made⟩

/-- The authority that a read tells. -/
def readAuthority : Except ProtocolError (Option FetchedNamespace) → Option Pubkey
  | .ok (some found) => some found.authority
  | _ => none

/-- What a node shows at a namespace's address tells its authority. -/
theorem authority_of_read (cluster : Cluster D)
    (legacy : OnlyLegacyRecords D cluster.genesis.accounts)
    (free : CollisionFree D (insert (namespaceSeeds creator namespaceId).flatten cluster.seeds)) :
    cluster.authority creator namespaceId =
      readAuthority (readNamespace D.programId (namespaceAddress D creator namespaceId)
        (existing (cluster.accounts (namespaceAddress D creator namespaceId)))) := by
  have steps := cluster.genesis.run_trace (D := D) (cluster.ledger.map Landing.items)
  have tells := namespaceTells_of_trace steps
    (fresh_of_legacy legacy free fun _ => legacySeeds_ne_namespaceSeeds _ _ _) free (.inl rfl)
    fun _ made => .inr (.inr made)
  change NamespaceTells D cluster.accounts creator namespaceId
    (cluster.authority creator namespaceId) at tells
  cases held : cluster.authority creator namespaceId with
  | some authority =>
      rw [held] at tells
      have there : Owned D cluster.accounts (namespaceAddress D creator namespaceId) _ 1 := tells
      rw [readNamespace_owned there]
      rfl
  | none =>
      rw [held] at tells
      have absent : (cluster.accounts (namespaceAddress D creator namespaceId)).owner ≠ D.programId :=
        tells
      cases read : readNamespace D.programId (namespaceAddress D creator namespaceId)
          (existing (cluster.accounts (namespaceAddress D creator namespaceId))) with
      | error _ => rfl
      | ok found =>
          cases found with
          | none => rfl
          | some found => exact absurd (owner_of_readNamespace read) absent

end Cluster

/-! ### A transaction that opens a namespace -/

section Sent

variable {H : Host} {cluster : Cluster D} {landing : Landing D} {id : Bytes32}
  {payer authority : Pubkey} {instruction : TransactionInstruction}

/-- The landing opened the namespace, with this authority. -/
def Landing.Opens (landing : Landing D) (creator : Pubkey) (namespaceId : Bytes32)
    (authority : Pubkey) : Prop :=
  landing.error = none ∧ ∃ item ∈ landing.items, item.opening creator namespaceId = some authority

/-- A transaction with the instruction that opens a namespace opened it, if it
succeeded. -/
theorem opens_of_sent (grown : cluster.Grown net) (mem : landing ∈ cluster.ledger)
    (succeeded : landing.error = none)
    (carries : landing.transaction.instructions = [instruction].map compile)
    (built : buildCreateNamespaceInstruction H ⟨D.programId, payer, payer⟩ ⟨id.val, authority⟩ =
      .ok instruction) : landing.Opens payer id authority := by
  obtain ⟨id', bytes, program, keys, data⟩ := buildCreateNamespaceInstruction_eq_ok built
  obtain rfl : id = id' := Subtype.ext bytes
  obtain ⟨before, after, unfolds⟩ := grown.unfolds mem succeeded
  have ran := landing.ran succeeded
  rw [carries] at ran
  obtain ⟨top, rest, here, nothing, executed⟩ := List.forall₂_cons_left_iff.mp ran
  refine ⟨succeeded, ?_⟩
  cases top with
  | other programId bytes different =>
      exact absurd (here.1.symm.trans program) different
  | program accounts bytes state machine processed =>
      obtain ⟨_, sameKeys, sameData⟩ := here
      have inside : .instruction accounts bytes ∈ landing.items :=
        unfolds.mem_items (by rw [executed]; exact List.mem_cons_self)
      refine ⟨_, inside, Item.opening_eq_some ?_ ?_⟩
      · rw [← sameData]
        change SettlementInstruction.unpack instruction.data = _
        rw [data]
        exact SettlementInstruction.unpack_pack trivial
      · have second : (accounts.map (·.key))[1]? = some payer := by
          rw [← sameKeys]
          change (instruction.keys.map (·.key))[1]? = _
          rw [keys]
          rfl
        rw [keyAt, ← List.getElem?_map]
        exact second

/-- What a landing opened nothing else ever opens. -/
theorem Landing.Opens.only (grown : cluster.Grown net) (mem : landing ∈ cluster.ledger)
    (opens : landing.Opens payer id authority) :
    openingsOf payer id cluster.log = [authority] := by
  obtain ⟨succeeded, item, inside, opening⟩ := opens
  have here : authority ∈ openingsOf payer id cluster.log :=
    List.mem_filterMap.mpr ⟨item, grown.mem_log mem succeeded inside, opening⟩
  have once : OpenedOnce D payer id cluster.log cluster.accounts :=
    openedOnce_of_trace (cluster.genesis.run_trace _)
  rcases once with nothing | ⟨only, _, one, _⟩
  · rw [nothing] at here
    cases here
  · rw [one] at here ⊢
    rw [List.mem_singleton.mp here]

end Sent

/-! ### The call -/

section Call

variable (net) in
/-- From one view of the node to another, the namespace had this authority at
some moment, on the chain as the node then saw it. -/
def AuthorityWas (creator : Pubkey) (namespaceId : Bytes32) (view view' : Cluster D)
    (authority : Option Pubkey) : Prop :=
  ∃ seen : Cluster D, Cluster.Later net view seen ∧ Cluster.Later net seen view' ∧
    seen.authority creator namespaceId = authority

variable (H : Host) (options : EnsureNamespaceOptions) (id : Bytes32)
  (was : Cluster D → Cluster D → Option Pubkey → Prop)

/-- The call sent nothing; or it sent the transaction that opens the namespace,
once, which it may open, and after it read that the namespace was not there. -/
def SendsOnce (w₀ w : Client D net) : Prop :=
  w.sent = w₀.sent ∨ ∃ sending : Sending D, w.sent = w₀.sent ++ [sending] ∧
    options.create ≠ some false ∧ options.creatorKey = options.payer ∧
    (∀ pinned, options.expectedAddress = some pinned →
      pinned = namespaceAddress D options.creatorKey id) ∧
    sending.signers = [options.payer] ∧
    (∃ instruction, sending.instructions = [instruction] ∧
      buildCreateNamespaceInstruction H ⟨options.programId, options.payer, options.payer⟩
        ⟨options.namespaceId, options.authorityKey⟩ = .ok instruction) ∧
    Cluster.Later net sending.view w.view ∧ was w₀.view sending.view none

/-- What the call returns. -/
structure Ensured (w₀ w : Client D net) (ensured : EnsuredNamespace) : Prop where
  address : ensured.address = namespaceAddress D options.creatorKey id
  pinned : ∀ pinned, options.expectedAddress = some pinned → ensured.address = pinned
  authority : ensured.authority = options.authorityKey
  /-- It was there, with the authority asked for. -/
  found : ensured.created = false →
    ensured.signature = none ∧ was w₀.view w.view (some options.authorityKey)
  /-- The call's transaction opened it, and nothing else ever did. -/
  opened : ensured.created = true → options.creatorKey = options.payer ∧
    ∃ landing ∈ w.cluster.ledger, ensured.signature = some landing.transaction.id ∧
      landing.Opens options.payer id options.authorityKey ∧
      openingsOf options.payer id w.cluster.log = [options.authorityKey]

/-- The call reports the namespace missing: it was, and the call may not open
it. -/
def Missing (w₀ w : Client D net) : Prop :=
  w.sent = w₀.sent ∧ (options.create = some false ∨ options.creatorKey ≠ options.payer) ∧
    was w₀.view w.view none

/-- The call threw: before it sent anything; or the node did not answer it
afterwards, or showed it no such namespace then. -/
def Threw (lossy : Prop) (w₀ w : Client D net) : Prop :=
  w.sent = w₀.sent ∨ lossy ∨ ∃ sending : Sending D, w.sent = w₀.sent ++ [sending] ∧
    ∃ authority, authority ≠ some options.authorityKey ∧ was sending.view w.view authority

/-- How the call may end. -/
def Ends (w₀ : Client D net) : Except NamespaceMissing EnsuredNamespace → Client D net → Prop
  | .ok ensured, w => Ensured options id was w₀ w ensured
  | .error _, w => Missing options was w₀ w

/-! ### What the node told -/

variable {H options id was}

/-- From one view of the node to another, a read of the address told this
authority. -/
def Told (net : Network) (address : Pubkey) (view view' : Cluster D) (authority : Option Pubkey) :
    Prop :=
  ∃ outcome, Client.Showed net view view' address outcome ∧ Cluster.readAuthority outcome = authority

theorem Told.mono {address : Pubkey} {a b c d : Cluster D} {authority : Option Pubkey}
    (told : Told net address b c authority) (before : Cluster.Later net a b)
    (after : Cluster.Later net c d) : Told net address a d authority := by
  obtain ⟨outcome, ⟨seen, early, late, read⟩, tells⟩ := told
  exact ⟨outcome, ⟨seen, before.trans early, late.trans after, read⟩, tells⟩

/-- What a client has not sent, and what time does. -/
structure Client.Waits (w w' : Client D net) : Prop where
  sent : w'.sent = w.sent
  view : Cluster.Later net w.view w'.view

theorem Client.safe_fetchNamespace {lossy : Prop} {guard : Client D net → ClientOp → Prop}
    {address : Pubkey} {w : Client D net} (allowed : guard w (.rpc (.getAccountInfo address))) :
    Interaction.Safe (Client.step lossy) guard (fetchNamespace clientConnection D.programId address)
      (fun found w' => w.Waits w' ∧ Client.Showed net w.view w'.view address (.ok found))
      (fun _ w' => w.Waits w' ∧
        (lossy ∨ ∃ error, Client.Showed net w.view w'.view address (.error error))) w := by
  have waits {w' : Client D net} {reply : Except Thrown (Option Account)}
      (moved : Client.step lossy w (.rpc (.getAccountInfo address)) reply w') : w.Waits w' :=
    ⟨moved.sent.trans (List.append_nil _), moved.view⟩
  refine Interaction.safe_bind.mpr (Interaction.safe_perform.mpr ⟨allowed, ?_, ?_⟩)
  · intro account w' moved
    have shown : account = existing (w.view.accounts address) := moved.answers
    refine Interaction.safe_ofExcept.mpr ⟨?_, ?_⟩
    · intro found read
      refine ⟨waits moved, w.view, .refl, moved.view, ?_⟩
      rw [← shown]
      exact protocolCall_eq_ok.mp read
    · intro error read
      obtain ⟨thrown, read, _⟩ := protocolCall_eq_error.mp read
      refine ⟨waits moved, .inr ⟨thrown, w.view, .refl, moved.view, ?_⟩⟩
      rw [← shown]
      exact read
  · intro error w' moved
    exact ⟨waits moved, .inl moved.answers.1⟩

/-! ### The call, step by step -/

section Safe

variable {lossy : Prop} {w₀ w : Client D net}

/-- What the call has sent, on its way. -/
abbrev Sound (H : Host) (options : EnsureNamespaceOptions) (id : Bytes32) (w₀ w : Client D net) :
    Prop :=
  SendsOnce H options id (Told net (namespaceAddress D options.creatorKey id)) w₀ w

/-- The rest of the call keeps to it, and ends well. -/
abbrev Opening (lossy : Prop) (H : Host) (options : EnsureNamespaceOptions) (id : Bytes32)
    (w₀ : Client D net) (program : ClientWork (Except NamespaceMissing EnsuredNamespace))
    (w : Client D net) : Prop :=
  Interaction.Safe (Client.step lossy) (fun w _ => Sound H options id w₀ w) program
    (fun result w => Sound H options id w₀ w ∧
      Ends options id (Told net (namespaceAddress D options.creatorKey id)) w₀ result w)
    (fun _ w => Sound H options id w₀ w ∧
      Threw options (Told net (namespaceAddress D options.creatorKey id)) lossy w₀ w) w

theorem opening_ofExcept {α : Type} {outcome : Except Thrown α}
    {rest : α → ClientWork (Except NamespaceMissing EnsuredNamespace)} (sound : Sound H options id w₀ w)
    (threw : ∀ error, outcome = .error error →
      Threw options (Told net (namespaceAddress D options.creatorKey id)) lossy w₀ w)
    (next : ∀ value, outcome = .ok value → Opening lossy H options id w₀ (rest value) w) :
    Opening lossy H options id w₀ (.ofExcept outcome >>= rest) w := by
  refine Interaction.safe_bind.mpr (Interaction.safe_ofExcept.mpr ⟨next, ?_⟩)
  intro error failed
  exact ⟨sound, threw error failed⟩

/-- A namespace that was there is taken if its authority is the expected one. -/
theorem opening_settleFor {found : FetchedNamespace} (sound : Sound H options id w₀ w)
    (pinned : ∀ pinned, options.expectedAddress = some pinned →
      namespaceAddress D options.creatorKey id = pinned)
    (there : Told net (namespaceAddress D options.creatorKey id) w₀.view w.view (some found.authority))
    (otherwise : found.authority ≠ options.authorityKey →
      Threw options (Told net (namespaceAddress D options.creatorKey id)) lossy w₀ w) :
    Opening lossy H options id w₀
      (settleFor (namespaceAddress D options.creatorKey id) options.authorityKey found) w := by
  refine opening_ofExcept sound ?_ ?_
  · intro error failed
    obtain ⟨_, refused, _⟩ := protocolCall_eq_error.mp failed
    refine otherwise fun same => ?_
    rw [expectAuthority, ensure_bind_of_pos same] at refused
    cases refused
  · intro held checked
    obtain ⟨same, rfl⟩ : found.authority = options.authorityKey ∧ held = found.authority := by
      have checked := protocolCall_eq_ok.mp checked
      obtain ⟨same, returned⟩ := ensure_bind_eq_ok.mp checked
      exact ⟨same, (Except.ok.inj returned).symm⟩
    refine Interaction.safe_pure.mpr ⟨sound, ?_⟩
    constructor
    · rfl
    · exact pinned
    · exact same
    · intro _
      rw [← same]
      exact ⟨rfl, there⟩
    · intro created
      cases created

theorem Sound.waits {w' : Client D net} (sound : Sound H options id w₀ w) (waits : w.Waits w') :
    Sound H options id w₀ w' := by
  rcases sound with untouched | ⟨sending, once, allowed, own, pinned, signed, carries, later, missing⟩
  · exact .inl (waits.sent.trans untouched)
  · exact .inr ⟨sending, waits.sent.trans once, allowed, own, pinned, signed, carries,
      later.trans waits.view, missing⟩

/-- The namespace is opened, unless another run was first. -/
theorem opening_openNamespace (program : options.programId = D.programId)
    (bytes : options.namespaceId = id.val) (untouched : w.sent = w₀.sent)
    (since : Cluster.Later net w₀.view w.view) (allowed : options.create ≠ some false)
    (own : options.creatorKey = options.payer)
    (pinned : ∀ pinned, options.expectedAddress = some pinned →
      namespaceAddress D options.creatorKey id = pinned)
    (missing : Told net (namespaceAddress D options.creatorKey id) w₀.view w.view none) :
    Opening lossy H options id w₀
      (openNamespace H options (namespaceAddress D options.creatorKey id)) w := by
  refine opening_ofExcept (.inl untouched) (fun _ _ => .inl untouched) ?_
  intro instruction built
  have built := protocolCall_eq_ok.mp built
  have sent {reply : Except Thrown JsString} {w' : Client D net}
      (moved : Client.step lossy w (.sendAndConfirm [instruction] [options.payer]) reply w') :
      w'.sent = w₀.sent ++ [⟨[instruction], [options.payer], w'.view⟩] := by
    rw [moved.sent, untouched]
    rfl
  have sound {reply : Except Thrown JsString} {w' : Client D net}
      (moved : Client.step lossy w (.sendAndConfirm [instruction] [options.payer]) reply w') :
      Sound H options id w₀ w' := by
    refine .inr ⟨_, sent moved, allowed, own, fun key same => (pinned key same).symm, rfl,
      ⟨instruction, rfl, built⟩, .refl, ?_⟩
    exact missing.mono .refl moved.view
  unfold send
  rw [if_pos (.inl rfl), program]
  refine Interaction.safe_bind.mpr (Interaction.safe_result.mpr
    (Interaction.safe_perform.mpr ⟨.inl untouched, ?_, ?_⟩))
  · -- the transaction was confirmed
    intro signature w' moved
    obtain ⟨landing, mem, same, succeeded, carries⟩ := moved.answers
    rw [program, bytes] at built
    have opens := opens_of_sent w'.grown mem succeeded carries built
    refine Interaction.safe_pure.mpr ⟨sound moved, ?_⟩
    constructor
    · rfl
    · exact pinned
    · rfl
    · intro created
      cases created
    · intro _
      exact ⟨own, landing, mem, congrArg some same.symm, opens, opens.only w'.grown mem⟩
  · -- another run may have opened it first
    intro error w' moved
    have threw {w'' : Client D net} {outcome : Except ProtocolError (Option FetchedNamespace)}
        (waits : w'.Waits w'')
        (showed : Client.Showed net w'.view w''.view (namespaceAddress D options.creatorKey id) outcome)
        (other : Cluster.readAuthority outcome ≠ some options.authorityKey) :
        Threw options (Told net (namespaceAddress D options.creatorKey id)) lossy w₀ w'' :=
      .inr (.inr ⟨_, waits.sent.trans (sent moved), _, other, outcome, showed, rfl⟩)
    refine Interaction.safe_bind.mpr (Interaction.safe_result.mpr
      ((Client.safe_fetchNamespace (sound moved)).mono ?_ ?_))
    · rintro found w'' ⟨waits, showed⟩
      cases found with
      | none =>
          refine Interaction.safe_throw.mpr ⟨(sound moved).waits waits, ?_⟩
          exact threw waits showed (fun same => nomatch same)
      | some raced =>
          refine opening_settleFor ((sound moved).waits waits) pinned ?_ fun other => ?_
          · have told : Told net (namespaceAddress D options.creatorKey id) w'.view w''.view
                (some raced.authority) := ⟨_, showed, rfl⟩
            exact told.mono (since.trans moved.view) .refl
          · exact threw waits showed fun same => other (Option.some.inj same)
    · rintro failed w'' ⟨waits, lost | ⟨thrown, showed⟩⟩
      · exact Interaction.safe_throw.mpr ⟨(sound moved).waits waits, .inr (.inl lost)⟩
      · refine Interaction.safe_throw.mpr ⟨(sound moved).waits waits, ?_⟩
        exact threw waits showed (fun same => nomatch same)

theorem opening_ensureNamespace (addresses : H.addresses = D.addresses)
    (program : options.programId = D.programId) (bytes : options.namespaceId = id.val) :
    Opening lossy H options id w₀ (ensureNamespace H options) w₀ := by
  refine opening_ofExcept (.inl rfl) (fun _ _ => .inl rfl) ?_
  intro derived found
  obtain ⟨id', bytes', rfl⟩ := findNamespacePda_eq_ok.mp (protocolCall_eq_ok.mp found)
  obtain rfl : id = id' := Subtype.ext (bytes.symm.trans bytes')
  have address : (namespacePda H.addresses D.programId options.creatorKey id).1 =
      namespaceAddress D options.creatorKey id := by rw [addresses, namespaceAddress]
  simp only [program, address]
  refine opening_ofExcept (.inl rfl) (fun _ _ => .inl rfl) ?_
  intro _ checked
  have pinned (pinned : Pubkey) (same : options.expectedAddress = some pinned) :
      namespaceAddress D options.creatorKey id = pinned := by
    have checked := protocolCall_eq_ok.mp checked
    rw [same] at checked
    exact (ensure_eq_ok.mp checked).symm
  have nothing : Sound H options id w₀ w₀ := .inl rfl
  refine Interaction.safe_bind.mpr ((Client.safe_fetchNamespace nothing).mono ?_ ?_)
  · rintro existing w ⟨waits, showed⟩
    cases existing with
    | some found =>
        have told : Told net (namespaceAddress D options.creatorKey id) w₀.view w.view
            (some found.authority) := ⟨_, showed, rfl⟩
        exact opening_settleFor (.inl waits.sent) pinned told fun _ => .inl waits.sent
    | none =>
        have missing : Told net (namespaceAddress D options.creatorKey id) w₀.view w.view none :=
          ⟨_, showed, rfl⟩
        dsimp only
        split_ifs with refused foreign
        · exact Interaction.safe_pure.mpr ⟨.inl waits.sent, waits.sent, .inl refused, missing⟩
        · exact Interaction.safe_pure.mpr ⟨.inl waits.sent, waits.sent, .inr foreign, missing⟩
        · exact opening_openNamespace program bytes waits.sent waits.view refused
            (not_not.mp foreign) pinned missing
  · rintro error w ⟨waits, _⟩
    exact ⟨.inl waits.sent, .inl waits.sent⟩

end Safe

/-! ### What happened on the chain -/

theorem Told.authorityWas {cluster : Cluster D} {creator : Pubkey} {view view' : Cluster D}
    {authority : Option Pubkey}
    (legacy : OnlyLegacyRecords D cluster.genesis.accounts)
    (free : CollisionFree D (insert (namespaceSeeds creator id).flatten cluster.seeds))
    (told : Told net (namespaceAddress D creator id) view view' authority)
    (later : Cluster.Later net view' cluster) : AuthorityWas net creator id view view' authority := by
  obtain ⟨outcome, ⟨seen, early, late, read⟩, tells⟩ := told
  refine ⟨seen, early, late, ?_⟩
  have grew : Cluster.Later net seen cluster := late.trans later
  rw [grew.genesis_eq] at legacy
  rw [seen.authority_of_read legacy (free.mono (Set.insert_subset_insert grew.seeds_subset)), read,
    tells]

section Mono

variable {lossy : Prop} {w₀ w : Client D net} {was' : Cluster D → Cluster D → Option Pubkey → Prop}
  (weaker : ∀ view view' authority, Cluster.Later net view' w.view → was view view' authority →
    was' view view' authority)

include weaker

theorem SendsOnce.mono (sends : SendsOnce H options id was w₀ w) : SendsOnce H options id was' w₀ w := by
  rcases sends with untouched | ⟨sending, once, allowed, own, pinned, signed, carries, later, missing⟩
  · exact .inl untouched
  · exact .inr ⟨sending, once, allowed, own, pinned, signed, carries, later,
      weaker _ _ _ later missing⟩

theorem Ensured.mono {ensured : EnsuredNamespace} (ends : Ensured options id was w₀ w ensured) :
    Ensured options id was' w₀ w ensured where
  address := ends.address
  pinned := ends.pinned
  authority := ends.authority
  found there := ⟨(ends.found there).1, weaker _ _ _ .refl (ends.found there).2⟩
  opened := ends.opened

theorem Missing.mono (ends : Missing options was w₀ w) : Missing options was' w₀ w :=
  ⟨ends.1, ends.2.1, weaker _ _ _ .refl ends.2.2⟩

theorem Threw.mono (ends : Threw options was lossy w₀ w) : Threw options was' lossy w₀ w := by
  rcases ends with untouched | lost | ⟨sending, once, authority, other, told⟩
  · exact .inl untouched
  · exact .inr (.inl lost)
  · exact .inr (.inr ⟨sending, once, authority, other, weaker _ _ _ .refl told⟩)

end Mono

end Call

/-- **A namespace is never opened by surprise.** Whatever anyone sends between
the requests of a call of `ensureNamespace`, wherever the call is stopped, and
however far the node that answers it lags behind the chain, with a moment of the
call being one that the node shows, from its view at the start to its last:

* It sends at most one transaction, the one that opens the namespace, and only
  if `create` is not false, the payer is the creator, the address is the pinned
  one if any is pinned, and the namespace was not open at a moment of the call.
* It returns the derived address, the pinned one if any is pinned, for the
  authority asked for. Either the namespace had that authority at a moment of the
  call; or the call's own transaction opened it with that authority, and no other
  transaction ever opens it.
* It reports the namespace missing only if it was not open at a moment of the
  call and the call may not open it.
* If it throws after it sent its transaction and the node answered every read,
  the namespace was not open, or had another authority, at a moment after that:
  a run that opened it first is no error. -/
theorem namespace_ensured (H : Host) (addresses : H.addresses = D.addresses)
    (options : EnsureNamespaceOptions) (program : options.programId = D.programId) (id : Bytes32)
    (bytes : options.namespaceId = id.val) (lossy : Prop) {w₀ w : Client D net}
    (legacy : OnlyLegacyRecords D w.cluster.genesis.accounts)
    (free : CollisionFree D
      (insert (namespaceSeeds options.creatorKey id).flatten w.cluster.seeds))
    {rest : ClientWork (Except NamespaceMissing EnsuredNamespace)}
    (ran : Interaction.Steps (Client.step lossy) (ensureNamespace H options, w₀) (rest, w)) :
    SendsOnce H options id (AuthorityWas net options.creatorKey id) w₀ w ∧
      (∀ ensured, rest = pure (.ok ensured) →
        Ensured options id (AuthorityWas net options.creatorKey id) w₀ w ensured) ∧
      (∀ missing, rest = pure (.error missing) →
        Missing options (AuthorityWas net options.creatorKey id) w₀ w) ∧
      ∀ error, rest = throw error →
        Threw options (AuthorityWas net options.creatorKey id) lossy w₀ w := by
  have start : Opening lossy H options id w₀ (ensureNamespace H options) w₀ :=
    opening_ensureNamespace addresses program bytes
  have tells (view view' : Cluster D) (authority : Option Pubkey)
      (later : Cluster.Later net view' w.view)
      (told : Told net (namespaceAddress D options.creatorKey id) view view' authority) :
      AuthorityWas net options.creatorKey id view view' authority :=
    told.authorityWas legacy free (later.trans w.behind)
  have safe := Interaction.Safe.steps start ran
  refine ⟨?_, ?_, ?_, ?_⟩
  · cases rest with
    | pure result => exact SendsOnce.mono tells safe.1
    | throw error => exact SendsOnce.mono tells safe.1
    | ask op next => exact SendsOnce.mono tells safe.1
  · rintro ensured rfl
    exact Ensured.mono tells safe.2
  · rintro missing rfl
    exact Missing.mono tells safe.2
  · rintro error rfl
    exact Threw.mono tells safe.2

/-! ### Two sample calls

The payer opens its namespace on a fresh chain, at the address it pinned, twice at once. -/

def openingOptions : EnsureNamespaceOptions where
  payer := samplePayer
  programId := sampleDeployment.programId
  namespaceId := (Bytes32.fill 5).val
  authority := some sampleAuthority
  expectedAddress := some sampleNamespacePda

def openingInstruction : TransactionInstruction where
  programId := sampleDeployment.programId
  keys := [⟨samplePayer, true, true⟩, ⟨samplePayer, true, false⟩, ⟨sampleNamespacePda, false, true⟩,
    ⟨systemProgramId, false, false⟩]
  data := (SettlementInstruction.createNamespace (Bytes32.fill 5) sampleAuthority).pack

def openingAfter : Machine :=
  (processInstruction sampleDeployment openingInstruction.keys openingInstruction.data
    freshState.accounts).toOption.getD ⟨freshState.accounts, []⟩

theorem openingInstruction_ran : processInstruction sampleDeployment openingInstruction.keys
    openingInstruction.data freshState.accounts = .ok openingAfter :=
  eq_ok_of_isOk _ (by decide +kernel)

def openingExecuted : List (TopLevel sampleDeployment) :=
  [.program openingInstruction.keys openingInstruction.data freshState.accounts openingAfter
    openingInstruction_ran]

def openingSigned : SignedTransaction where
  signature := List.replicate 64 9
  blockhash := sampleBlockhash
  instructions := [compile openingInstruction]

theorem openingExecuted_ran : List.Forall₂ RanAs openingSigned.instructions openingExecuted :=
  .cons ⟨rfl, rfl, rfl⟩ .nil

theorem openingExecuted_not_failed (error : Json) (failed : (none : Option Json) = some error) :
    ∃ metadata, (shownTransaction openingExecuted openingSigned.id 3 1767225600).metadata =
      some metadata ∧ metadata.err = some error := by
  cases failed

def openingLanding : Landing sampleDeployment where
  transaction := openingSigned
  height := 1
  error := none
  executed := openingExecuted
  items := [.instruction openingInstruction.keys openingInstruction.data]
  shown := shownTransaction openingExecuted openingSigned.id 3 1767225600
  ran _ := openingExecuted_ran
  truthful _ := truthful_shownTransaction _ _ _ _
  failed := openingExecuted_not_failed

/-- The chain before the call, and after it. -/
def unopened : Cluster sampleDeployment := ⟨freshState, [], 0, 0⟩

def opened : Cluster sampleDeployment := ⟨freshState, [openingLanding], 0, 0⟩

theorem unopened_grown : unopened.Grown sampleNetwork := ⟨unopened, rfl, .refl⟩

theorem opened_later : Cluster.Later sampleNetwork unopened opened := by
  have unfolds : Unfolds openingExecuted openingLanding.items unopened.accounts
      openingAfter.accounts := .program .done
  exact .single (.lands openingLanding rfl (by decide) (fun _ old => nomatch old) ⟨_, unfolds⟩)

theorem opened_grown : opened.Grown sampleNetwork := ⟨unopened, rfl, opened_later⟩

theorem unopened_behind : Cluster.Later sampleNetwork unopened unopened := .refl

theorem opened_behind : Cluster.Later sampleNetwork opened opened := .refl

def sampleClient : Client sampleDeployment sampleNetwork where
  cluster := unopened
  view := unopened
  sent := []
  grown := unopened_grown
  behind := unopened_behind

def sampleOpened : Client sampleDeployment sampleNetwork where
  cluster := opened
  view := opened
  sent := [⟨[openingInstruction], [samplePayer], opened⟩]
  grown := opened_grown
  behind := opened_behind

/-- A node that answers reads of accounts, and tells `told` when the transaction that opens
the namespace is sent, by which time it is open. -/
def openingRespond (told : Except JsString JsString) (w : Client sampleDeployment sampleNetwork) :
    (op : ClientOp) → Option (Except Thrown op.Reply × Client sampleDeployment sampleNetwork)
  | .rpc (.getAccountInfo address) => some (.ok (existing (w.view.accounts address)), w)
  | .sendAndConfirm instructions signers =>
      if w.sent.isEmpty ∧ instructions = [openingInstruction] ∧ signers = [samplePayer] then
        some (told.mapError .other, sampleOpened)
      else none
  | _ => none

/-- The call, played. -/
def openingPlay (told : Except JsString JsString) :
    ClientWork (Except NamespaceMissing EnsuredNamespace) × Client sampleDeployment sampleNetwork :=
  Interaction.play (openingRespond told) 5 (ensureNamespace sampleHost openingOptions, sampleClient)

/-- Another run opened it first. -/
def raceLost : Except JsString JsString := .error (js "Error: custom program error")

theorem openingPlay_returned :
    ((openingPlay (.ok openingSigned.id)).1.returned =
        some (.ok ⟨sampleNamespacePda, sampleAuthority, true, some openingSigned.id⟩) ∧
      (openingPlay (.ok openingSigned.id)).2.sent.length = 1) ∧
    (openingPlay raceLost).1.returned =
        some (.ok ⟨sampleNamespacePda, sampleAuthority, false, none⟩) ∧
      (openingPlay raceLost).2.sent.length = 1 := by
  decide +kernel

theorem openingPlay_steps {told : Except JsString JsString}
    (truly : ∀ signature, told = .ok signature → signature = openingSigned.id) :
    Interaction.Steps (Client.step False) (ensureNamespace sampleHost openingOptions, sampleClient)
        (openingPlay told) ∧ ((openingPlay told).2 = sampleClient ∨ (openingPlay told).2 = sampleOpened) := by
  unfold openingPlay
  refine Interaction.steps_play (fun w op reply w' (kept : w = sampleClient ∨ w = sampleOpened)
    answered => ?_) 5 (ensureNamespace sampleHost openingOptions, sampleClient) (.inl rfl)
  cases op with
  | sendAndConfirm instructions signers =>
      obtain ⟨⟨first, rfl, rfl⟩, same⟩ := Option.ite_none_right_eq_some.mp answered
      obtain ⟨rfl, rfl⟩ := Prod.ext_iff.mp (Option.some.inj same)
      obtain rfl : w = sampleClient := by
        rcases kept with rfl | rfl
        · rfl
        · cases first
      refine ⟨?_, .inr rfl⟩
      constructor
      · exact opened_later
      · exact opened_later
      · cases told <;> rfl
      · cases told with
        | ok signature =>
            rw [truly signature rfl]
            exact ⟨openingLanding, List.mem_singleton_self _, rfl, rfl, rfl⟩
        | error text => exact ⟨text, rfl⟩
  | rpc call =>
      cases call with
      | getAccountInfo address =>
          cases answered
          refine ⟨?_, kept⟩
          constructor
          · exact .refl
          · exact .refl
          · exact (List.append_nil _).symm
          · exact rfl
      | _ => cases answered

theorem opened_seeds {w : Client sampleDeployment sampleNetwork}
    (kept : w = sampleClient ∨ w = sampleOpened) :
    w.cluster.seeds ⊆ {(namespaceSeeds samplePayer (Bytes32.fill 5)).flatten} := by
  have untouched (k : Pubkey) : (w.cluster.genesis.accounts k).owner ≠ sampleDeployment.programId := by
    rcases kept with rfl | rfl
    · exact freshState_not_owned k
    · exact freshState_not_owned k
  have made : ∀ seeds ∈ w.cluster.log.map Item.seeds,
      seeds = some (namespaceSeeds samplePayer (Bytes32.fill 5)).flatten := by
    rcases kept with rfl | rfl
    · intro seeds mem
      cases mem
    · decide +kernel
  rintro bytes (⟨_, _, owned⟩ | ⟨item, mem, here⟩)
  · exact absurd owned (untouched _)
  · exact Option.some.inj (here.symm.trans (made _ (List.mem_map_of_mem mem)))

theorem opened_legacy {w : Client sampleDeployment sampleNetwork}
    (kept : w = sampleClient ∨ w = sampleOpened) :
    OnlyLegacyRecords sampleDeployment w.cluster.genesis.accounts := by
  have genesis : w.cluster.genesis = freshState := by
    rcases kept with same | same <;> rw [same] <;> rfl
  rw [genesis]
  exact fun k owned => absurd owned (freshState_not_owned k)

theorem opened_free {w : Client sampleDeployment sampleNetwork}
    (kept : w = sampleClient ∨ w = sampleOpened) : CollisionFree sampleDeployment
      (insert (namespaceSeeds samplePayer (Bytes32.fill 5)).flatten w.cluster.seeds) := by
  intro one other here there _
  have only := Set.insert_subset (Set.mem_singleton _) (opened_seeds kept)
  exact (only here).trans (only there).symm

/-- One run of the call opens the namespace. Another that sent its transaction too late finds
it open. -/
theorem namespace_ensured_sample :
    (∃ w : Client sampleDeployment sampleNetwork,
      Interaction.Steps (Client.step False) (ensureNamespace sampleHost openingOptions, sampleClient)
          (pure (.ok ⟨sampleNamespacePda, sampleAuthority, true, some openingSigned.id⟩), w) ∧
        openingsOf samplePayer (Bytes32.fill 5) w.cluster.log = [sampleAuthority] ∧
        ∃ sending : Sending sampleDeployment, w.sent = [sending] ∧ sending.signers = [samplePayer]) ∧
      ∃ w : Client sampleDeployment sampleNetwork,
        Interaction.Steps (Client.step False) (ensureNamespace sampleHost openingOptions, sampleClient)
            (pure (.ok ⟨sampleNamespacePda, sampleAuthority, false, none⟩), w) ∧
          AuthorityWas sampleNetwork samplePayer (Bytes32.fill 5) unopened w.view (some sampleAuthority) ∧
          ∃ sending : Sending sampleDeployment, w.sent = [sending] ∧ sending.signers = [samplePayer] := by
  obtain ⟨⟨opened, one⟩, found, oneLost⟩ := openingPlay_returned
  constructor
  · obtain ⟨ran, kept⟩ := openingPlay_steps fun signature same => (Except.ok.inj same).symm
    rw [← Prod.mk.eta (p := openingPlay _), Interaction.returned_eq_some.mp opened] at ran
    obtain ⟨sends, returns, _⟩ := namespace_ensured (D := sampleDeployment) sampleHost rfl openingOptions
      rfl (Bytes32.fill 5) rfl False (opened_legacy kept) (opened_free kept) ran
    obtain ⟨_, landing, _, _, _, once⟩ := (returns _ rfl).opened rfl
    refine ⟨_, ran, once, ?_⟩
    rcases sends with nothing | ⟨sending, sent, _, _, _, signers, _⟩
    · rw [nothing] at one
      cases one
    · exact ⟨sending, sent, signers⟩
  · have lost (signature : JsString) (same : raceLost = .ok signature) : signature = openingSigned.id := by
      cases same
    obtain ⟨ran, kept⟩ := openingPlay_steps lost
    rw [← Prod.mk.eta (p := openingPlay _), Interaction.returned_eq_some.mp found] at ran
    obtain ⟨sends, returns, _⟩ := namespace_ensured (D := sampleDeployment) sampleHost rfl openingOptions
      rfl (Bytes32.fill 5) rfl False (opened_legacy kept) (opened_free kept) ran
    refine ⟨_, ran, ((returns _ rfl).found rfl).2, ?_⟩
    rcases sends with nothing | ⟨sending, sent, _, _, _, signers, _⟩
    · rw [nothing] at oneLost
      cases oneLost
    · exact ⟨sending, sent, signers⟩

end Synxed.Studio
