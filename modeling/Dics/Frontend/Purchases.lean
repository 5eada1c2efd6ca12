/-
Buying a policy and renewing its premium in the browser.

The page shows a price that was read from the chain a while ago, lets the wallet
approve exactly that price and then calls the contract.  Until the buyer
approves again, the contract cannot take more than the price that was shown,
whatever has become of the template or the terms in the meantime.
-/

import Dics.Backend.PolicyRoutes
import Dics.Lib.Allowances

open Transactions Tokens Words

namespace Dics.Frontend

open Backend.PolicyRoutes
open InsurancePolicy (State World Target Call Commit exec)

/-! ### Units and configuration -/

/-- `ethers.formatEther` and `ethers.parseEther`; `none` where they throw. -/
structure Units where
  formatEther : String → Option String
  parseEther : String → Option Nat

/-- Formatting an amount and parsing the text gives the amount back. -/
def Units.Documented (units : Units) : Prop :=
  ∀ wei, wei < wordBound →
    (units.formatEther (toString wei)).bind units.parseEther = some wei

structure Config where
  insurancePolicyAddress : Option Address
  stableCoinAddress : Option Address

inductive Error where
  | notConfigured (envVarName : String)
  | invalidAmount
  | invalidArgument
  deriving DecidableEq

def requireAddress (address : Option Address) (envVarName : String) : Except Error Address :=
  match address with
  | some address => if address = 0 then .error (.notConfigured envVarName) else .ok address
  | none => .error (.notConfigured envVarName)

/-! ### The two transactions -/

/-- What both flows share: the approval of `amountEther`, then the call. -/
def approveThen (units : Units) (config : Config) (fn : InsurancePolicy.Fn)
    (amountEther : String) : Except Error (Target × Target) := do
  let insurancePolicy ←
    requireAddress config.insurancePolicyAddress "VITE_INSURANCE_POLICY_ADDRESS"
  let stableCoin ← requireAddress config.stableCoinAddress "VITE_STABLECOIN_ADDRESS"
  let amountWei ← orRevert .invalidAmount (units.parseEther amountEther)
  return (.token stableCoin (.approve insurancePolicy amountWei), .policy fn)

def subscribeToPolicyOnChain (units : Units) (config : Config) (templateId : Nat)
    (premiumAmountEther : String) : Except Error (Target × Target) :=
  approveThen units config (.subscribeToPolicy templateId) premiumAmountEther

def payPremiumOnChain (units : Units) (config : Config) (policyId : Nat)
    (premiumAmountEther : String) : Except Error (Target × Target) :=
  approveThen units config (.payPremium policyId) premiumAmountEther

/-- `handleSubscribe` of `BuyPolicy.jsx`. -/
def handleSubscribe (units : Units) (config : Config) (template : PolicyTemplateOut) :
    Except Error (Target × Target) := do
  let premiumEther ← orRevert .invalidAmount
    (units.formatEther template.premiumAmountPerPeriodWei)
  subscribeToPolicyOnChain units config template.templateId premiumEther

/-- `handlePay` of `PremiumStatusBadge.jsx`. -/
def handlePay (units : Units) (config : Config) (policyId : Nat) (status : PolicyStatusOut) :
    Except Error (Target × Target) := do
  let premiumEther ← orRevert .invalidAmount
    (units.formatEther status.premiumAmountPerPeriodWei)
  payPremiumOnChain units config policyId premiumEther

/-- A price the page has shown, with the two transactions it then sends.  The
price is the one in the storage that the backend read. -/
inductive Offered (units : Units) (config : Config) : Nat → Target → Target → Prop where
  | subscription {reads : Nat → Option State} {items : List PolicyTemplateOut}
      {item : PolicyTemplateOut} {state : State} {approval action : Target}
      (answered : getPolicyCatalog reads = .ok items) (member : item ∈ items)
      (read : reads item.templateId = some state)
      (sent : handleSubscribe units config item = .ok (approval, action)) :
      Offered units config
        (state.policyTemplates item.templateId).premiumAmountPerPeriod.toNat approval action
  | renewal {policyId : Nat} {reads : StatusReads} {status : PolicyStatusOut} {state : State}
      {approval action : Target} (answered : getPolicyStatus policyId reads = .ok status)
      (read : reads.terms = some state)
      (sent : handlePay units config policyId status = .ok (approval, action)) :
      Offered units config (state.premiumTerms policyId).amountPerPeriod.toNat approval action

theorem approveThen_ok {units : Units} {config : Config} {fn : InsurancePolicy.Fn}
    {amountEther : String} {approval action : Target}
    (sent : approveThen units config fn amountEther = .ok (approval, action)) :
    ∃ insurancePolicy stableCoin amountWei,
      config.insurancePolicyAddress = some insurancePolicy ∧
      config.stableCoinAddress = some stableCoin ∧
      units.parseEther amountEther = some amountWei ∧
      approval = .token stableCoin (.approve insurancePolicy amountWei) := by
  obtain ⟨insurancePolicy, policySet, rest⟩ := bind_eq_ok.mp sent
  obtain ⟨stableCoin, coinSet, rest⟩ := bind_eq_ok.mp rest
  obtain ⟨amountWei, parsed, same⟩ := orRevert_bind_eq_ok.mp rest
  cases same
  have configured : ∀ {address : Option Address} {name : String} {found : Address},
      requireAddress address name = .ok found → address = some found := by
    intro address name found required
    unfold requireAddress at required
    split at required
    · split at required
      · cases required
      · cases required
        rfl
    · cases required
  exact ⟨insurancePolicy, stableCoin, amountWei, configured policySet, configured coinSet,
    parsed, rfl⟩

/-- The wallet is asked to approve exactly the price that was read. -/
theorem Offered.approves {units : Units} (documented : units.Documented) {config : Config}
    {quote : Nat} {approval action : Target}
    (offered : Offered units config quote approval action) :
    quote < 2 ^ 128 ∧ ∃ insurancePolicy stableCoin,
      config.insurancePolicyAddress = some insurancePolicy ∧
      config.stableCoinAddress = some stableCoin ∧
      approval = .token stableCoin (.approve insurancePolicy quote) := by
  have exact : ∀ {wei : Nat} {text : String} {fn : InsurancePolicy.Fn}
      {approval action : Target}, wei < 2 ^ 128 →
      units.formatEther (toString wei) = some text →
      approveThen units config fn text = .ok (approval, action) →
      ∃ insurancePolicy stableCoin, config.insurancePolicyAddress = some insurancePolicy ∧
        config.stableCoinAddress = some stableCoin ∧
        approval = .token stableCoin (.approve insurancePolicy wei) := by
    intro wei text fn approval action small formatted sent
    obtain ⟨insurancePolicy, stableCoin, amountWei, policySet, coinSet, parsed, rfl⟩ :=
      approveThen_ok sent
    have roundTrip := documented wei (Nat.lt_trans small (by decide))
    rw [formatted, Option.bind_some, parsed] at roundTrip
    cases roundTrip
    exact ⟨insurancePolicy, stableCoin, policySet, coinSet, rfl⟩
  cases offered with
  | @subscription reads items item state _ _ answered member read sent =>
      obtain ⟨text, formatted, sending⟩ := orRevert_bind_eq_ok.mp sent
      obtain ⟨_, found, listed⟩ := mem_catalog answered member
      rw [read] at found
      cases found
      have small := (state.policyTemplates item.templateId).premiumAmountPerPeriod.isLt
      have shown : item.premiumAmountPerPeriodWei =
          toString (state.policyTemplates item.templateId).premiumAmountPerPeriod.toNat := by
        unfold listing at listed
        split at listed
        · cases listed
        · split at listed
          · cases listed
          · rw [← Option.some.inj listed]
      rw [shown] at formatted
      exact ⟨small, exact small formatted sending⟩
  | @renewal policyId reads status state _ _ answered read sent =>
      obtain ⟨text, formatted, sending⟩ := orRevert_bind_eq_ok.mp sent
      obtain ⟨_, _, _, terms, _, _, _, billed, rfl⟩ := getPolicyStatus_ok answered
      rw [read] at billed
      cases billed
      exact ⟨(state.premiumTerms policyId).amountPerPeriod.isLt,
        exact (state.premiumTerms policyId).amountPerPeriod.isLt formatted sending⟩

/-! ### What is taken afterwards -/

section Runs

variable {contract token buyer : Address} {quote : Nat}

/-- What the policy contract takes of a token from the buyer in one transaction. -/
def taken (token buyer : Address) (commit : Commit) : Nat :=
  match commit.call.target with
  | .policy _ => (commit.output.movements.map fun movement =>
      if movement.token = token ∧ movement.sender = buyer then movement.amount else 0).sum
  | .token _ _ => 0

def pulled (token buyer : Address) (commits : List Commit) : Nat :=
  (commits.map (taken token buyer)).sum

/-- The buyer sets a new allowance of the token for the contract. -/
def approvesAgain (contract token buyer : Address) (commit : Commit) : Bool :=
  match commit.call.target with
  | .token asked (.approve spender _) =>
      asked = token && spender = contract && commit.call.msg.sender = buyer
  | _ => false

/-- What may still be taken and what has been taken come to the quote at most. -/
def WithinQuote (contract token buyer : Address) (quote : Nat) (world : World)
    (past : List Commit) : Prop :=
  world.tokens.allowance token buyer contract + pulled token buyer past ≤ quote

theorem pulled_snoc (token buyer : Address) (past : List Commit) (commit : Commit) :
    pulled token buyer (past ++ [commit]) = pulled token buyer past + taken token buyer commit := by
  simp only [pulled, List.map_append, List.map_cons, List.map_nil, List.sum_append,
    List.sum_cons, List.sum_nil, Nat.add_zero]

/-- In one call of the contract the allowance pays for what is taken. -/
theorem callFn_withinQuote {msg : Msg} {world next : World}
    {receipt : Receipt InsurancePolicy.Event} {fn : InsurancePolicy.Fn}
    (done : InsurancePolicy.callFn contract msg world fn = .ok (next, receipt))
    (limited : world.tokens.allowance token buyer contract ≠ wordBound - 1) :
    next.tokens.allowance token buyer contract +
        taken token buyer ⟨world, ⟨msg, .policy fn⟩, receipt, next⟩ ≤
      world.tokens.allowance token buyer contract := by
  rcases InsurancePolicy.callFn_tokens done with
    ⟨same, none⟩ | ⟨asked, treasury, amount, collected⟩
  · simp only [taken, none, same, List.map_nil, List.sum_nil, Nat.add_zero, Nat.le_refl]
  · obtain ⟨_, _, _, movements⟩ := act_transferFrom_eq_ok collected
    simp only [taken, movements, List.map_cons, List.map_nil, List.sum_cons, List.sum_nil,
      Nat.add_zero]
    by_cases charged : asked = token ∧ msg.sender = buyer
    · obtain ⟨rfl, rfl⟩ := charged
      rw [if_pos ⟨rfl, rfl⟩]
      exact Nat.le_of_eq (act_transferFrom_allowance limited collected)
    · rw [if_neg charged, Nat.add_zero]
      refine act_allowance_le collected ?_
      rintro ⟨_, _, _, approves⟩
      cases approves

theorem withinQuote_step {world next : World} {past : List Commit} {call : Call}
    {receipt : Receipt InsurancePolicy.Event} (small : quote < wordBound - 1)
    (before : WithinQuote contract token buyer quote world past)
    (done : exec contract world call = .ok (next, receipt))
    (silent : approvesAgain contract token buyer ⟨world, call, receipt, next⟩ = false) :
    WithinQuote contract token buyer quote next (past ++ [⟨world, call, receipt, next⟩]) := by
  unfold WithinQuote at before ⊢
  rw [pulled_snoc]
  obtain ⟨msg, target⟩ := call
  cases target with
  | policy fn =>
      have limited : world.tokens.allowance token buyer contract ≠ wordBound - 1 := by omega
      have paid := @callFn_withinQuote contract token buyer msg world next receipt fn done limited
      omega
  | token asked act =>
      obtain ⟨⟨tokens, movements⟩, acted, same⟩ := bind_eq_ok.mp done
      cases same
      have other : ¬Approves token buyer contract asked msg.sender act := by
        rintro ⟨rfl, rfl, amount, rfl⟩
        simp only [approvesAgain, decide_true, Bool.and_self, Bool.true_eq_false] at silent
      have kept := act_allowance_le (mapError_eq_ok.mp acted) other
      show tokens.allowance token buyer contract + (pulled token buyer past + 0) ≤ quote
      omega

end Runs

/-- Once the wallet has approved the price on the page, the policy contract
takes no more than that price of the buyer's stablecoin, in whatever order
templates, terms and settings change and whoever calls what, until the buyer
approves again. -/
theorem charged_at_most_the_quote (units : Units) (documented : units.Documented)
    (config : Config) (contract token : Address)
    (policySet : config.insurancePolicyAddress = some contract)
    (coinSet : config.stableCoinAddress = some token) (quote : Nat) (approval action : Target)
    (offered : Offered units config quote approval action) (world approved : World) (msg : Msg)
    (receipt : Receipt InsurancePolicy.Event)
    (signed : exec contract world ⟨msg, approval⟩ = .ok (approved, receipt)) (later : List Call)
    (silent : ∀ commit ∈ Transactions.history (exec contract) approved later,
      approvesAgain contract token msg.sender commit = false) :
    pulled token msg.sender (Transactions.history (exec contract) approved later) ≤ quote := by
  obtain ⟨small, insurancePolicy, stableCoin, samePolicy, sameCoin, rfl⟩ :=
    offered.approves documented
  rw [policySet] at samePolicy
  rw [coinSet] at sameCoin
  cases samePolicy
  cases sameCoin
  have limited : quote < wordBound - 1 := Nat.lt_trans small (by decide)
  have run := @run_induction _ _ _ _ (exec contract)
    (WithinQuote contract token msg.sender quote)
    (fun commit => approvesAgain contract token msg.sender commit = false) approved ?_ ?_ later
    silent
  · exact Nat.le_trans (Nat.le_add_left _ _) run
  · obtain ⟨⟨tokens, movements⟩, acted, same⟩ := bind_eq_ok.mp signed
    cases same
    have set := act_approve_allowance (mapError_eq_ok.mp acted)
    exact Nat.le_of_eq set
  · intro world past call next receipt before done silent
    exact withinQuote_step limited before done silent

/-- Ten ether as the library writes it; any other text is passed through. -/
def sampleUnits : Units where
  formatEther text := if text = "10000000000000000000" then some "10.0" else some text
  parseEther text :=
    if text = "10.0" then some (10 ^ 19) else some (Nat.ofDigitChars 10 text.toList 0)

theorem sampleUnits_documented : sampleUnits.Documented := by
  intro wei _
  have digits : (toString wei).toList = Nat.toDigits 10 wei := Nat.toList_repr
  have value : Nat.ofDigitChars 10 (toString wei).toList 0 = wei := by
    rw [digits]
    exact Nat.ofDigitChars_toDigits (by decide) (by decide)
  by_cases ten : toString wei = "10000000000000000000"
  · rw [ten] at value
    have same : wei = 10 ^ 19 := by
      rw [← value]
      decide
    rw [same]
    decide
  · have plain : toString wei ≠ "10.0" := by
      intro same
      have point : '.' ∈ Nat.toDigits 10 wei := by
        rw [← digits, same]
        decide
      exact absurd (Nat.isDigit_of_mem_toDigits (by decide) (by decide) point) (by decide)
    simp only [sampleUnits, if_neg ten, Option.bind_some, if_neg plain, value]

def sampleConfig : Config where
  insurancePolicyAddress := some 0x90
  stableCoinAddress := some 0x77

/-- `0xA1` owns twenty ether of every token and has approved nothing. -/
def sampleDeployment : InsurancePolicy.Deployment where
  self := 0x90
  timelockAdmin := 0xAD
  tokens _ :=
    { balances := fun account => if account = 0xA1 then 2 * 10 ^ 19 else 0
      allowances := fun _ _ => 0
      totalSupply := 2 * 10 ^ 19 }

/-- The first template costs ten ether. -/
def sampleWorld : World :=
  sampleDeployment.run
    [InsurancePolicy.sampleCall 0xAD (.changeRole (.grantRole .policyManager 0xE1)),
     InsurancePolicy.sampleCall 0xAD (.setPremiumConfig 0x77 0x7E 50),
     InsurancePolicy.sampleCall 0xE1 (.addPolicyTemplate 1 600 (10 ^ 19) 30 365 0)]

def sampleBuyer : Msg := { sender := 0xA1, timestamp := 10 }

/-- The buyer subscribes, the price doubles, and the buyer tries to renew. -/
def sampleLater : List Call :=
  [InsurancePolicy.sampleCall 0xA1 (.subscribeToPolicy 1),
   InsurancePolicy.sampleCall 0xE1 (.setPremiumTerms 1 (2 * 10 ^ 19) 30),
   InsurancePolicy.sampleCall 0xA1 (.payPremium 1)]

def sampleApproved : World :=
  settle (exec 0x90) sampleWorld ⟨sampleBuyer, .token 0x77 (.approve 0x90 (10 ^ 19))⟩

theorem sample_offered :
    Offered sampleUnits sampleConfig (10 ^ 19) (.token 0x77 (.approve 0x90 (10 ^ 19)))
      (.policy (.subscribeToPolicy 1)) :=
  @Offered.subscription sampleUnits sampleConfig (fun _ => some sampleWorld.policy)
    [⟨1, "600", "10000000000000000000", 30, 365⟩] ⟨1, "600", "10000000000000000000", 30, 365⟩
    sampleWorld.policy _ _ (by decide +kernel) (List.mem_singleton.mpr rfl) rfl
    (by decide +kernel)

theorem charged_at_most_the_quote_sample :
    (Transactions.history (exec 0x90) sampleApproved sampleLater).length = 2 ∧
      pulled 0x77 0xA1 (Transactions.history (exec 0x90) sampleApproved sampleLater) = 10 ^ 19 ∧
      pulled 0x77 0xA1 (Transactions.history (exec 0x90) sampleApproved sampleLater) ≤ 10 ^ 19 :=
  ⟨by decide +kernel, by decide +kernel,
    charged_at_most_the_quote sampleUnits sampleUnits_documented sampleConfig 0x90 0x77 rfl rfl
      (10 ^ 19) (.token 0x77 (.approve 0x90 (10 ^ 19))) (.policy (.subscribeToPolicy 1))
      sample_offered sampleWorld sampleApproved sampleBuyer ⟨[], []⟩ rfl sampleLater
      (by decide +kernel)⟩

end Dics.Frontend
