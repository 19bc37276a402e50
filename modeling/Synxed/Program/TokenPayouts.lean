import Synxed.Program.Payouts

/-!
What a token settlement moves.

`TokenStep` is what a token transfer keeps of every account, and
`payDestinations_moves` what a whole payout loop moves. They give
`settleTokenN_moves_exactly_the_split`: the split leaves the source for its
destinations, token for token. Wrapped SOL is the one case in which lamports
move too, because the token program moves them along.
-/

namespace Synxed.Program

open Synxed.Lib

variable {D : Deployment}

/-! ### Token accounts -/

/-- `k` is a token account with these contents. -/
def Holds (accounts : Accounts) (k : Pubkey) (t : TokenAccount) : Prop :=
  (accounts k).owner = tokenProgramId ∧ TokenAccount.unpack (accounts k).data = .ok t

/-- The tokens of every token account. -/
def tokensIn (accounts : Accounts) (k : Pubkey) : Nat :=
  if (accounts k).owner = tokenProgramId then
    match TokenAccount.unpack (accounts k).data with
    | .ok t => t.amount.toNat
    | .error _ => 0
  else 0

theorem Holds.tokens {accounts : Accounts} {k : Pubkey} {t : TokenAccount}
    (holds : Holds accounts k t) : tokensIn accounts k = t.amount.toNat := by
  rw [tokensIn, if_pos holds.1, holds.2]

theorem Holds.unique {accounts : Accounts} {k : Pubkey} {t t' : TokenAccount}
    (holds : Holds accounts k t) (holds' : Holds accounts k t') : t = t' := by
  have same := holds.2.symm.trans holds'.2
  cases same
  rfl

/-- What a transfer keeps of a token account. -/
structure SameHolding (t t' : TokenAccount) : Prop where
  mint : t'.mint = t.mint
  owner : t'.owner = t.owner
  isNative : t'.isNative = t.isNative

theorem SameHolding.trans {a b c : TokenAccount} (first : SameHolding a b)
    (second : SameHolding b c) : SameHolding a c :=
  ⟨second.mint.trans first.mint, second.owner.trans first.owner,
    second.isNative.trans first.isNative⟩

/-- What token transfers keep of every account: its owner, its data unless it is
a token account, and of a token account all but amount and allowance. -/
structure TokenStep (before after : Accounts) : Prop where
  owner : ∀ k, (after k).owner = (before k).owner
  data : ∀ k, (before k).owner ≠ tokenProgramId ∨ (before k).data.length ≠ 165 →
    (after k).data = (before k).data
  holding : ∀ k t, Holds before k t → ∃ t', Holds after k t' ∧ SameHolding t t'

theorem TokenStep.refl (accounts : Accounts) : TokenStep accounts accounts :=
  ⟨fun _ => rfl, fun _ _ => rfl, fun _ t holds => ⟨t, holds, rfl, rfl, rfl⟩⟩

theorem TokenStep.trans {a b c : Accounts} (first : TokenStep a b) (second : TokenStep b c) :
    TokenStep a c where
  owner k := (second.owner k).trans (first.owner k)
  data k outside := by
    have same := first.data k outside
    rw [second.data k (by rwa [first.owner, same]), same]
  holding k t holds := by
    obtain ⟨t', holds', same⟩ := first.holding k t holds
    obtain ⟨t'', holds'', same'⟩ := second.holding k t' holds'
    exact ⟨t'', holds'', same.trans same'⟩

/-! ### One transfer -/

section Moves

variable {accounts : Accounts} {source destination : Pubkey} {sender receiver : TokenAccount}
  {byDelegate : Bool} {amount : UInt64}

theorem moveTokens_lamports (enough : sender.isNative.isSome → amount.toNat ≤ lamportsIn accounts source) :
    Paid source (if sender.isNative.isSome then [(destination, amount.toNat)] else [])
      (lamportsIn accounts) (lamportsIn
        (moveTokens accounts source destination sender receiver byDelegate amount)) := by
  set credited : Accounts := moveTokens accounts source destination
    { sender with isNative := none } receiver byDelegate amount with hcredited
  have lamports : lamportsIn credited = lamportsIn accounts := by
    funext k
    by_cases toDestination : k = destination <;> by_cases fromSource : k = source <;>
      simp_all [lamportsIn, moveTokens, Function.update_apply]
  have unfolded : moveTokens accounts source destination sender receiver byDelegate amount =
      if sender.isNative.isSome then moveLamports credited source destination amount.toNat
      else credited := by
    simp [hcredited, moveTokens]
  rw [unfolded, ← lamports]
  by_cases native : sender.isNative.isSome
  · rw [if_pos native, if_pos native]
    refine moveLamports_paid destination ?_
    have held := enough native
    rwa [← lamports] at held
  · rw [if_neg native, if_neg native]
    exact Paid.nil

theorem moveTokens_source (different : destination ≠ source) :
    (moveTokens accounts source destination sender receiver byDelegate amount source).data =
      withAmount (if byDelegate then
        withDelegated (accounts source).data (sender.delegatedAmount - amount)
        else (accounts source).data) (sender.amount - amount) := by
  by_cases native : sender.isNative.isSome <;>
    simp [moveTokens, native, Function.update_of_ne different.symm]

theorem moveTokens_destination (different : destination ≠ source) :
    (moveTokens accounts source destination sender receiver byDelegate amount destination).data =
      withAmount (accounts destination).data (receiver.amount + amount) := by
  by_cases native : sender.isNative.isSome <;>
    simp [moveTokens, native, Function.update_of_ne different]

end Moves

/-- One transfer between two different token accounts. -/
theorem tokenTransferChecked_moves {source mint destination authority : AccountInfo}
    {amount : UInt64} {decimals : UInt8} {m m' : Machine} (different : destination.key ≠ source.key)
    (h : tokenTransferChecked source mint destination authority amount decimals m = .ok m') :
    ∃ sender, Holds m.accounts source.key sender ∧
      Paid source.key [(destination.key, amount.toNat)] (tokensIn m.accounts)
        (tokensIn m'.accounts) ∧
      Paid source.key (if sender.isNative.isSome then [(destination.key, amount.toNat)] else [])
        (lamportsIn m.accounts) (lamportsIn m'.accounts) ∧
      TokenStep m.accounts m'.accounts := by
  simp only [tokenTransferChecked, bind_eq_ok, ensure_eq_ok, exists_const, invoking_eq_ok,
    if_neg different.symm, Except.ok.injEq] at h
  obtain ⟨_, ⟨sourceOwner, destinationOwner⟩, sender, readSender, receiver, readReceiver, _, enough,
    _, mintState, _, _, _, _, _, fits, lamportsFit, rfl⟩ := h
  have isSender : Holds m.accounts source.key sender := ⟨sourceOwner, readSender⟩
  have isReceiver : Holds m.accounts destination.key receiver := ⟨destinationOwner, readReceiver⟩
  set byDelegate : Bool := decide (sender.delegate = some authority.key)
  set after := moveTokens m.accounts source.key destination.key sender receiver byDelegate amount
  have sent : ∃ sender', TokenAccount.unpack (after source.key).data = .ok sender' ∧
      SameHolding sender sender' ∧ sender'.amount = sender.amount - amount := by
    rw [moveTokens_source different]
    by_cases delegated : byDelegate = true
    · rw [if_pos delegated]
      exact ⟨_, TokenAccount.unpack_withAmount _ (TokenAccount.unpack_withDelegated _ readSender),
        ⟨rfl, rfl, rfl⟩, rfl⟩
    · rw [if_neg delegated]
      exact ⟨_, TokenAccount.unpack_withAmount _ readSender, ⟨rfl, rfl, rfl⟩, rfl⟩
  have received : Holds after destination.key { receiver with amount := receiver.amount + amount } := by
    refine ⟨(moveTokens_owner _).trans destinationOwner, ?_⟩
    rw [moveTokens_destination different]
    exact TokenAccount.unpack_withAmount _ readReceiver
  obtain ⟨sender', readSender', sameSender, left⟩ := sent
  have isSender' : Holds after source.key sender' :=
    ⟨(moveTokens_owner _).trans sourceOwner, readSender'⟩
  refine ⟨sender, isSender, fun k => ?_, moveTokens_lamports fun native => (lamportsFit native).1,
    ⟨fun k => moveTokens_owner k, fun k outside => ?_, fun k t holds => ?_⟩⟩
  · simp only [paidTo_cons, paidTo_nil, totalPaid, List.map_cons, List.map_nil, List.sum_cons,
      List.sum_nil, Nat.add_zero]
    by_cases fromSource : k = source.key
    · subst fromSource
      rw [if_pos rfl, if_neg different, isSender'.tokens, isSender.tokens, left,
        UInt64.toNat_sub_of_le _ _ enough]
      have := UInt64.le_iff_toNat_le.mp enough
      omega
    · rw [if_neg fromSource]
      by_cases toDestination : k = destination.key
      · subst toDestination
        have sum : (receiver.amount + amount).toNat = receiver.amount.toNat + amount.toNat := by
          rw [UInt64.toNat_add, Nat.mod_eq_of_lt]
          unfold u64Max at fits
          omega
        rw [if_pos rfl, received.tokens, isReceiver.tokens, sum, Nat.add_zero]
      · have same : after k = m.accounts k := moveTokens_other fromSource toDestination
        rw [if_neg (Ne.symm toDestination), tokensIn, tokensIn, same]
  · have same : after k = m.accounts k := by
      refine moveTokens_other ?_ ?_
      · rintro rfl
        exact outside.elim (fun notToken => notToken sourceOwner)
          fun other => other (TokenAccount.length_of_unpack readSender)
      · rintro rfl
        exact outside.elim (fun notToken => notToken destinationOwner)
          fun other => other (TokenAccount.length_of_unpack readReceiver)
    exact congrArg Account.data same
  · by_cases fromSource : k = source.key
    · subst fromSource
      cases holds.unique isSender
      exact ⟨sender', isSender', sameSender⟩
    · by_cases toDestination : k = destination.key
      · subst toDestination
        cases holds.unique isReceiver
        exact ⟨_, received, rfl, rfl, rfl⟩
      · have same : after k = m.accounts k := moveTokens_other fromSource toDestination
        have kept : Holds after k t := by
          unfold Holds
          rw [same]
          exact holds
        exact ⟨t, kept, rfl, rfl, rfl⟩

/-! ### The payout loop -/

/-- The lamports that go along with payouts of wrapped SOL. -/
def alongWith (sender : TokenAccount) (payouts : List (AccountInfo × UInt64)) :
    List (Pubkey × Nat) :=
  if sender.isNative.isSome then payoutsTo payouts else []

theorem alongWith_cons (sender : TokenAccount) (payout : AccountInfo × UInt64)
    (rest : List (AccountInfo × UInt64)) :
    alongWith sender (payout :: rest) = alongWith sender [payout] ++ alongWith sender rest := by
  by_cases native : sender.isNative.isSome
  · simp only [alongWith, if_pos native]
    rfl
  · simp only [alongWith, if_neg native, List.append_nil]

theorem payDestination_moves {source mint authority recipient : AccountInfo} {tokens : UInt64}
    {decimals : UInt8} {m m' : Machine} {sender : TokenAccount}
    (isSender : Holds m.accounts source.key sender) (different : recipient.key ≠ source.key)
    (h : payDestination source mint authority recipient tokens decimals m = .ok m') :
    Paid source.key (payoutsTo [(recipient, tokens)]) (tokensIn m.accounts) (tokensIn m'.accounts) ∧
      Paid source.key (alongWith sender [(recipient, tokens)]) (lamportsIn m.accounts)
        (lamportsIn m'.accounts) ∧ TokenStep m.accounts m'.accounts := by
  by_cases zero : tokens = 0
  · rw [payDestination, if_pos zero] at h
    cases h
    subst zero
    refine ⟨Paid.zero _, ?_, TokenStep.refl _⟩
    rw [alongWith]
    split
    · exact Paid.zero _
    · exact Paid.nil
  · rw [payDestination, if_neg zero] at h
    obtain ⟨sender', isSender', tokensMoved, lamportsMoved, kept⟩ :=
      tokenTransferChecked_moves different h
    cases isSender.unique isSender'
    exact ⟨tokensMoved, lamportsMoved, kept⟩

/-- The payout loop, whatever destinations it names and however often. Each
transfer finds the source as the ones before it left it. -/
theorem payDestinations_moves {source mint authority : AccountInfo} {decimals : UInt8}
    {payouts : List (AccountInfo × UInt64)} (different : ∀ payout ∈ payouts,
      payout.1.key ≠ source.key) : ∀ {m m' : Machine} {sender : TokenAccount},
    Holds m.accounts source.key sender →
    payDestinations source mint authority decimals payouts m = .ok m' →
      Paid source.key (payoutsTo payouts) (tokensIn m.accounts) (tokensIn m'.accounts) ∧
      Paid source.key (alongWith sender payouts) (lamportsIn m.accounts) (lamportsIn m'.accounts) ∧
      TokenStep m.accounts m'.accounts := by
  induction payouts with
  | nil =>
      intro m m' sender _ h
      cases h
      refine ⟨Paid.nil, ?_, TokenStep.refl _⟩
      rw [alongWith]
      split
      · exact Paid.nil
      · exact Paid.nil
  | cons payout rest ih =>
      intro m m' sender isSender h
      simp only [payDestinations, bind_eq_ok] at h
      obtain ⟨middle, first, h⟩ := h
      obtain ⟨tokens, lamports, kept⟩ :=
        payDestination_moves isSender (different payout (by simp)) first
      obtain ⟨sender', isSender', same⟩ := kept.holding _ _ isSender
      obtain ⟨tokens', lamports', kept'⟩ :=
        ih (fun payout mem => different payout (by simp [mem])) isSender' h
      have sameAlong : alongWith sender' rest = alongWith sender rest := by
        rw [alongWith, alongWith, same.isNative]
      rw [sameAlong] at lamports'
      refine ⟨tokens.append tokens', ?_, kept.trans kept'⟩
      rw [alongWith_cons]
      exact lamports.append lamports'

/-! ### A token settlement -/

theorem checkDestinations_eq_ok {source record mint : AccountInfo} {m : Machine}
    {recipients : List AccountInfo} {u : Unit} :
    checkDestinations source record mint m recipients = .ok u ↔ ∀ recipient ∈ recipients,
      (recipient.key ≠ source.key ∧ recipient.key ≠ record.key) ∧
        ∃ t, TokenAccount.unpack (m.accounts recipient.key).data = .ok t ∧ t.mint = mint.key := by
  induction recipients with
  | nil => simp [checkDestinations]
  | cons recipient rest ih =>
      simp only [checkDestinations, bind_eq_ok, ensure_eq_ok, exists_const, ih, List.mem_cons,
        forall_eq_or_imp, not_or, and_assoc]
      constructor
      · rintro ⟨notSource, notRecord, t, read, mintKey, later⟩
        exact ⟨notSource, notRecord, ⟨t, read, mintKey⟩, later⟩
      · rintro ⟨notSource, notRecord, ⟨t, read, mintKey⟩, later⟩
        exact ⟨notSource, notRecord, t, read, mintKey, later⟩

/-- Making the record moves no tokens and changes no account of the token
program. -/
theorem created_tokens (D : Deployment) (data : Bytes) {accounts : Accounts}
    {payer record : Pubkey} {shortfall : Nat} (fresh : (accounts record).owner = systemProgramId)
    (payable : CanPay accounts payer record shortfall) :
    tokensIn (created D accounts payer record shortfall data) = tokensIn accounts ∧
      ∀ k, (accounts k).owner = tokenProgramId →
        (created D accounts payer record shortfall data k).owner = tokenProgramId ∧
        (created D accounts payer record shortfall data k).data = (accounts k).data := by
  obtain ⟨_, other⟩ := created_paid D data payable
  have notToken : systemProgramId ≠ tokenProgramId := by decide
  refine ⟨funext fun k => ?_, fun k token => ?_⟩
  · by_cases here : k = record
    · subst here
      rw [tokensIn, tokensIn, created_owner, if_neg D.notToken, fresh, if_neg notToken]
    · rw [tokensIn, tokensIn, (other k here).1, (other k here).2]
  · have different : k ≠ record := by
      rintro rfl
      exact notToken (fresh.symm.trans token)
    exact ⟨(other k different).1.trans token, (other k different).2⟩

/-- What a successful token settlement checked and moved. -/
structure TokenSettled (D : Deployment) (before after : Accounts) (payer source mint record : Pubkey)
    (decimals : UInt8) (sender : TokenAccount) (payouts : List (AccountInfo × UInt64)) : Prop where
  isSender : Holds before source sender
  senderMint : sender.mint = mint
  senderOwner : sender.owner = payer
  mintOwner : (before mint).owner = tokenProgramId
  mintDecimals : ∃ mintState, TokenMint.unpack (before mint).data = .ok mintState ∧
    mintState.decimals = decimals
  mintData : (after mint).data = (before mint).data
  recordMade : (after record).owner = D.programId
  other : ∀ k, k ≠ record → (after k).owner = (before k).owner ∧
    ((before k).owner ≠ tokenProgramId → (after k).data = (before k).data)
  tokens : Paid source (payoutsTo payouts) (tokensIn before) (tokensIn after)
  lamports : ∃ middle,
    Paid payer [(record, shortfallOf D before record settlementRecordSize)] (lamportsIn before)
      middle ∧ Paid source (alongWith sender payouts) middle (lamportsIn after)

theorem TokenMint.length_of_unpack {data : Bytes} {t : TokenMint}
    (h : TokenMint.unpack data = .ok t) : data.length = 82 := by
  rw [TokenMint.unpack, ensure_bind_eq_ok] at h
  exact h.1

theorem settleToken_settled {accounts : List AccountInfo} {eventId : Bytes32} {amount : UInt64}
    {decimals : UInt8} {payouts : List UInt64} {m m' : Machine}
    (h : settleToken D accounts eventId amount decimals payouts m = .ok m') :
    ∃ payer authority ns source recipients mint record systemProgram tokenProgram sender,
      accounts = payer :: authority :: ns :: source ::
        (recipients ++ [mint, record, systemProgram, tokenProgram]) ∧
      recipients.length = payouts.length ∧ payer.isSigner ∧
      record.key = (settlementPda D.addresses D.programId ns.key eventId).1 ∧
      (∀ recipient ∈ recipients, recipient.key ≠ source.key ∧
        ∃ t t', Holds m.accounts recipient.key t ∧ t.mint = mint.key ∧
          Holds m'.accounts recipient.key t' ∧ t'.mint = mint.key) ∧
      TokenSettled D m.accounts m'.accounts payer.key source.key mint.key record.key decimals sender
        (recipients.zip payouts) := by
  simp only [settleToken, bind_eq_ok, ensure_eq_ok, exists_const, indexAt_eq_ok,
    authorize_eq_ok] at h
  obtain ⟨length, payer, atPayer, authority, atAuthority, ns, atNs, source, atSource, mint, atMint,
    record, atRecord, systemProgram, atSystem, tokenProgram, atToken, isToken, _, _,
    ⟨sourceOwner, mintOwner, recipientOwners⟩, mintState, readMint, ⟨_, sameDecimals⟩, sender,
    readSender, ⟨senderMint, senderOwner⟩, _, checked, opened, recorded, paid⟩ := h
  rw [isToken] at sourceOwner mintOwner recipientOwners
  have checks := checkDestinations_eq_ok.mp checked
  obtain ⟨address, flags, fresh, payable, rfl⟩ := createRecord_eq_ok.mp recorded
  obtain ⟨rent, others⟩ := created_paid D (recordData eventId amount) payable
  obtain ⟨sameTokens, untouched⟩ :=
    created_tokens D (recordData eventId amount) fresh.1 payable
  have still {k : Pubkey} {t : TokenAccount} (holds : Holds m.accounts k t) :
      Holds (created D m.accounts payer.key record.key
        (shortfallOf D m.accounts record.key settlementRecordSize) (recordData eventId amount)) k t :=
    ⟨(untouched k holds.1).1, by rw [(untouched k holds.1).2]; exact holds.2⟩
  have isSender : Holds m.accounts source.key sender := ⟨sourceOwner, readSender⟩
  obtain ⟨tokens, lamports, kept⟩ := payDestinations_moves
    (fun payout mem => (checks payout.1 (List.of_mem_zip mem).1).1.1) (still isSender) paid
  rw [sameTokens] at tokens
  refine ⟨payer, authority, ns, source, _, mint, record, systemProgram, tokenProgram, sender,
    settleTokenAccounts_eq length atPayer atAuthority atNs atSource atMint atRecord atSystem atToken,
    ?_, flags.1, address, fun recipient mem => ?_, isSender, senderMint, senderOwner, mintOwner,
    ⟨mintState, readMint, sameDecimals⟩, ?_, (kept.owner _).trans (created_owner _ _ _ _ _),
    fun k other => ⟨?_, fun notToken => ?_⟩, tokens, _, rent, lamports⟩
  · rw [List.length_take, List.length_drop]
    omega
  · obtain ⟨⟨notSource, _⟩, t, read, mintKey⟩ := checks recipient mem
    have holds : Holds m.accounts recipient.key t := ⟨recipientOwners recipient mem, read⟩
    obtain ⟨t', holds', same⟩ := kept.holding _ _ (still holds)
    exact ⟨notSource, t, t', holds, mintKey, holds', same.mint.trans mintKey⟩
  · have mintLength := TokenMint.length_of_unpack readMint
    rw [← (untouched mint.key mintOwner).2] at mintLength
    rw [kept.data mint.key (.inr (by rw [mintLength]; decide)), (untouched mint.key mintOwner).2]
  · exact (kept.owner k).trans (others k other).1
  · rw [← (others k other).1] at notToken
    exact (kept.data k (.inl notToken)).trans (others k other).2

/-- **Token settlements move exactly the split.** Whatever destinations a
successful `SettleTokenN` names, and however often: the source, a token account
of the listed mint that the signing payer owns, pays the amount; every other
account gets the payouts to it, and every destination holds that mint before and
after. The mint's data, its supply included, stays as it was. Lamports move for
the record's missing rent, from the payer to the record; and if the source is a
wrapped-SOL account, along with the tokens. -/
theorem settleTokenN_moves_exactly_the_split {accounts : List AccountInfo} {data : Bytes}
    {eventId : Bytes32} {amount : UInt64} {decimals : UInt8} {bps : List UInt16} {state : Accounts}
    {m : Machine}
    (decoded : SettlementInstruction.unpack data = .ok (.settleTokenN eventId amount decimals bps))
    (settled : processInstruction D accounts data state = .ok m) :
    ∃ payer authority ns source recipients mint record systemProgram tokenProgram payouts sender,
      accounts = payer :: authority :: ns :: source ::
        (recipients ++ [mint, record, systemProgram, tokenProgram]) ∧
      splitShares amount bps bps.length = .ok payouts ∧ recipients.length = payouts.length ∧
      record.key = (settlementPda D.addresses D.programId ns.key eventId).1 ∧
      payer.isSigner ∧ Holds state source.key sender ∧ sender.owner = payer.key ∧
      sender.mint = mint.key ∧
      (∃ mintState, TokenMint.unpack (state mint.key).data = .ok mintState ∧
        mintState.decimals = decimals) ∧
      (∀ recipient ∈ recipients, recipient.key ≠ source.key ∧
        ∃ t t', Holds state recipient.key t ∧ t.mint = mint.key ∧
          Holds m.accounts recipient.key t' ∧ t'.mint = mint.key) ∧
      tokensIn m.accounts source.key + amount.toNat = tokensIn state source.key ∧
      (∀ x, x ≠ source.key → tokensIn m.accounts x =
        tokensIn state x + paidTo (payoutsTo (recipients.zip payouts)) x) ∧
      (m.accounts mint.key).data = (state mint.key).data ∧
      ∀ x, ((m.accounts x).lamports : Int) - (state x).lamports =
        (if x = record.key then
          ((D.minimumBalance 41 - (state record.key).lamports : Nat) : Int) else 0) -
        (if x = payer.key then
          ((D.minimumBalance 41 - (state record.key).lamports : Nat) : Int) else 0) +
        (if sender.isNative.isSome then
          (paidTo (payoutsTo (recipients.zip payouts)) x : Int) -
            (if x = source.key then amount.toNat else 0)
        else 0) := by
  rw [processInstruction, decoded, ok_bind] at settled
  obtain ⟨payouts, split, settled⟩ := bind_eq_ok.mp settled
  obtain ⟨valid, values⟩ := splitPayouts_eq_ok.mp split
  obtain ⟨payer, authority, ns, source, recipients, mint, record, systemProgram, tokenProgram, sender,
    rfl, length, signed, address, destinations, moved⟩ := settleToken_settled settled
  have total : totalPaid (payoutsTo (recipients.zip payouts)) = amount.toNat := by
    rw [totalPaid_zip length, values, sum_payoutsOf valid]
  refine ⟨payer, authority, ns, source, recipients, mint, record, systemProgram, tokenProgram,
    payouts, sender, rfl, splitShares_eq_ok.mpr ⟨valid, rfl, values⟩, length, address, signed,
    moved.isSender, moved.senderOwner, moved.senderMint, moved.mintDecimals, destinations, ?_,
    fun x other => ?_, moved.mintData, fun x => ?_⟩
  · have unpaid : paidTo (payoutsTo (recipients.zip payouts)) source.key = 0 := by
      refine paidTo_eq_zero fun payout mem => ?_
      obtain ⟨recipient, mem', rfl⟩ := List.mem_map.mp mem
      exact (destinations recipient.1 (List.of_mem_zip mem').1).1
    have here := moved.tokens source.key
    rwa [if_pos rfl, unpaid, Nat.add_zero, total] at here
  · have here := moved.tokens x
    rwa [if_neg other, Nat.add_zero] at here
  · obtain ⟨middle, rent, along⟩ := moved.lamports
    have first := rent x
    have second := along x
    simp only [paidTo_cons, paidTo_nil, Nat.add_zero, lamportsIn, shortfallOf, totalPaid,
      List.map_cons, List.map_nil, List.sum_cons, List.sum_nil, eq_comm (a := record.key)] at first
    rw [show settlementRecordSize = 41 from rfl] at first
    simp only [lamportsIn] at second
    by_cases native : sender.isNative.isSome
    · rw [alongWith, if_pos native, total] at second
      rw [if_pos native]
      split_ifs at first second ⊢ <;> omega
    · rw [alongWith, if_neg native, paidTo_nil] at second
      rw [if_neg native]
      have nothing : totalPaid ([] : List (Pubkey × Nat)) = 0 := rfl
      rw [nothing] at second
      split_ifs at first second ⊢ <;> omega

/-! ### Sample token settlements -/

/-- The mint of wrapped SOL (`So11111111111111111111111111111111111111112`). -/
def nativeMint : Pubkey :=
  ⟨[6, 155, 136, 87, 254, 171, 129, 132, 251, 104, 127, 99, 70, 24, 192, 53, 218, 196, 57, 220, 26,
    235, 59, 85, 152, 160, 240, 0, 0, 0, 0, 1], rfl⟩

def sampleMint : Pubkey := Bytes32.fill 20
def sampleSource : Pubkey := Bytes32.fill 21
def sampleDestination : Pubkey := Bytes32.fill 22

/-- An initialized mint without authorities. -/
def mintBytes (decimals : UInt8) : Bytes :=
  List.replicate 44 0 ++ ([decimals, 1] ++ List.replicate 36 0)

/-- An initialized token account without delegate; with a rent reserve it is
wrapped SOL. -/
def sampleTokenAccount (mint owner : Pubkey) (amount : UInt64) (reserve : Option UInt64) : Account where
  lamports := 2039280 + (if reserve.isSome then amount.toNat else 0)
  owner := tokenProgramId
  data := tokenAccountBytes mint.val owner.val (u64Bytes amount) (List.replicate 36 0) 1
    (match reserve with
      | some rent => [1, 0, 0, 0] ++ u64Bytes rent
      | none => List.replicate 12 0) (u64Bytes 0) (List.replicate 36 0)

/-- The sample chain with a mint and two token accounts of it. -/
def sampleTokenState (mint : Pubkey) (reserve : Option UInt64) : Accounts := fun k =>
  if k = mint then ⟨10 ^ 7, tokenProgramId, mintBytes 9⟩
  else if k = sampleSource then sampleTokenAccount mint samplePayer 5000 reserve
  else if k = sampleDestination then sampleTokenAccount mint sampleRecipient 7 reserve
  else sampleState.accounts k

/-- Both shares go to the same destination. -/
def sampleTokenSettlement (mint : Pubkey) : List AccountInfo :=
  [⟨samplePayer, true, true⟩, ⟨sampleAuthority, true, false⟩, ⟨sampleNamespace, false, false⟩,
    ⟨sampleSource, false, true⟩, ⟨sampleDestination, false, true⟩, ⟨sampleDestination, false, true⟩,
    ⟨mint, false, false⟩,
    ⟨(settlementPda sampleDeployment.addresses sampleDeployment.programId sampleNamespace
      (Bytes32.fill 4)).1, false, true⟩, ⟨systemProgramId, false, false⟩,
    ⟨tokenProgramId, false, false⟩]

def sampleTokenData : Bytes :=
  (SettlementInstruction.settleTokenN (Bytes32.fill 4) 1001 9 [7000, 3000]).pack

theorem unpack_sampleTokenData : SettlementInstruction.unpack sampleTokenData =
    .ok (.settleTokenN (Bytes32.fill 4) 1001 9 [7000, 3000]) :=
  SettlementInstruction.unpack_pack (by decide)

/-- A token settlement with both shares to one destination. -/
theorem settleTokenN_moves_exactly_the_split_sample :
    ∃ m, processInstruction sampleDeployment (sampleTokenSettlement sampleMint) sampleTokenData
        (sampleTokenState sampleMint none) = .ok m ∧
      tokensIn m.accounts sampleDestination = 1008 ∧
      tokensIn m.accounts sampleSource + 1001 =
        tokensIn (sampleTokenState sampleMint none) sampleSource := by
  have executes : (processInstruction sampleDeployment (sampleTokenSettlement sampleMint)
      sampleTokenData (sampleTokenState sampleMint none)).toOption.map
        (fun m => tokensIn m.accounts sampleDestination) = some 1008 := by decide +kernel
  cases ran : processInstruction sampleDeployment (sampleTokenSettlement sampleMint) sampleTokenData
      (sampleTokenState sampleMint none) with
  | error fault =>
      rw [ran] at executes
      cases executes
  | ok m =>
      rw [ran] at executes
      obtain ⟨payer, authority, ns, source, recipients, mint, record, systemProgram, tokenProgram,
        payouts, sender, listed, _, _, _, _, _, _, _, _, _, debited, _⟩ :=
        settleTokenN_moves_exactly_the_split unpack_sampleTokenData ran
      have atSource : source.key = sampleSource := by
        simp only [sampleTokenSettlement, List.cons.injEq] at listed
        rw [← listed.2.2.2.1]
      rw [atSource] at debited
      exact ⟨m, rfl, Option.some.inj executes, debited⟩

/-- Wrapped SOL takes its lamports along: a settlement of it changes the
lamports of accounts that are neither the payer nor the record. -/
theorem wrapped_sol_moves_lamports :
    ¬ ∀ (D : Deployment) (accounts : List AccountInfo) (data : Bytes) (eventId : Bytes32)
      (amount : UInt64) (decimals : UInt8) (bps : List UInt16) (state : Accounts) (m : Machine),
      SettlementInstruction.unpack data = .ok (.settleTokenN eventId amount decimals bps) →
      processInstruction D accounts data state = .ok m →
      ∀ x, keyAt accounts 0 ≠ some x → keyAt accounts (bps.length + 5) ≠ some x →
        (m.accounts x).lamports = (state x).lamports := by
  intro claim
  have executes : (processInstruction sampleDeployment (sampleTokenSettlement nativeMint)
      sampleTokenData (sampleTokenState nativeMint (some 2039280))).toOption.map
        (fun m => (m.accounts sampleDestination).lamports) = some 2040288 := by decide +kernel
  cases ran : processInstruction sampleDeployment (sampleTokenSettlement nativeMint) sampleTokenData
      (sampleTokenState nativeMint (some 2039280)) with
  | error fault =>
      rw [ran] at executes
      cases executes
  | ok m =>
      rw [ran] at executes
      have credited : (m.accounts sampleDestination).lamports = 2040288 := Option.some.inj executes
      have unchanged := claim _ _ _ _ _ _ _ _ _ unpack_sampleTokenData ran sampleDestination
        (by decide +kernel) (by decide +kernel)
      rw [credited] at unchanged
      exact absurd unchanged (by decide +kernel)

end Synxed.Program
