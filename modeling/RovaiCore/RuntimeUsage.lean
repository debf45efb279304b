import RovaiCore.AgentRunStore
/-!
# Runtime usage (`monitoring.rs`)

What a Runtime reports of its token usage, and the counters it is normalized to.
-/
namespace Rovai.Usage

open AgentRuns (isBlank)

inductive RuntimeUsageCounterMode where
  | delta
  | cumulative
  | gauge
  deriving DecidableEq, Ord

inductive RuntimeInputSemantics where
  | exclusiveBuckets
  | cacheInclusiveTotal
  | unknown
  deriving DecidableEq, Ord

structure RuntimeUsageFields where
  inputTokens : Option Int := none
  uncachedInputTokens : Option Int := none
  outputTokens : Option Int := none
  reasoningOutputTokens : Option Int := none
  cacheReadInputTokens : Option Int := none
  cacheWriteInputTokens : Option Int := none
  contextUsedTokens : Option Int := none
  contextSizeTokens : Option Int := none
  nativeContextRatio : Option Rat := none
  deriving DecidableEq

structure RuntimeUsageCost where
  (amount currency quality grain : String)

structure ParsedRuntimeUsage where
  (identitySuffix dialectId source scope : String)
  counterMode : RuntimeUsageCounterMode
  inputSemantics : RuntimeInputSemantics
  nativeSessionId : Option String := none
  nativeTurnId : Option String := none
  fields : RuntimeUsageFields := {}
  cost : Option RuntimeUsageCost := none
  contextModelId : Option String := none
  occurredAt : Option String := none

/-! ## Counters -/

inductive UsageCounter where
  | promptInputTotalTokens
  | uncachedInputTokens
  | cacheReadTokens
  | cacheWriteTokens
  | outputTokens
  | reasoningOutputTokens
  | cacheObservableRequestCount
  | cacheHitRequestCount
  deriving DecidableEq

namespace UsageCounter

def all : List UsageCounter :=
  [promptInputTotalTokens, uncachedInputTokens, cacheReadTokens, cacheWriteTokens, outputTokens, reasoningOutputTokens,
    cacheObservableRequestCount, cacheHitRequestCount]

theorem mem_all (c : UsageCounter) : c ∈ all := by
  cases c <;> decide

end UsageCounter

abbrev UsageCounters := UsageCounter → Option Nat

def UsageCounters.anyObserved (counters : UsageCounters) : Bool :=
  UsageCounter.all.any (fun c => (counters c).isSome)

theorem UsageCounters.none_of_unobserved {counters : UsageCounters} (h : counters.anyObserved = false) (c : UsageCounter) :
    counters c = none := by
  have hall := List.any_eq_false.1 h c (UsageCounter.mem_all c)
  simpa using hall

def counterDelta : Option Nat → Option Nat → Option Nat
  | some current, some baseline => if current > baseline then some (current - baseline) else none
  | _, _ => none

def subtractCounters (current baseline : UsageCounters) : UsageCounters :=
  fun c => counterDelta (current c) (baseline c)

/-! ## What a report must be -/

def jsMaxSafeInteger : Nat := 9007199254740991

def i64Max : Nat := 9223372036854775807

def validateKey (value name : String) : Except String Unit :=
  if isBlank value || value.utf8ByteSize > 256 then .error s!"Runtime Usage {name} is invalid" else .ok ()

def validateCurrency (value : String) : Except String Unit :=
  if value.utf8ByteSize ≠ 3 || !value.toList.all Char.isUpper then
    .error "Runtime Usage currency must be a three-letter uppercase code"
  else .ok ()

def validateDecimal (value : String) : Except String Unit :=
  let chars := value.toList
  if chars.isEmpty || chars.any (fun c => c == 'e' || c == 'E' || c == '+' || c == '-') || chars.head? == some '.' ||
      chars.getLast? == some '.' || chars.count '.' + 1 > 2 || !chars.all (fun c => c.isDigit || c == '.') then
    .error "Runtime Usage decimal must be an unsigned base-10 value"
  else .ok ()

def validateCost (cost : RuntimeUsageCost) : Except String Unit := do
  validateDecimal cost.amount
  validateCurrency cost.currency
  if cost.grain ∉ ["model_call", "turn", "run", "session", "billing_bucket", "unknown"] then
    .error "Runtime Usage cost grain is unsupported"
  else if cost.quality ∉ ["runtime_reported", "runtime_estimate", "price_estimated", "tokenizer_price_estimated"] then
    .error "Runtime Usage cost quality is unsupported"
  else .ok ()

def RuntimeUsageFields.values (fields : RuntimeUsageFields) : List Int :=
  [fields.inputTokens, fields.uncachedInputTokens, fields.outputTokens, fields.reasoningOutputTokens,
    fields.cacheReadInputTokens, fields.cacheWriteInputTokens, fields.contextUsedTokens,
    fields.contextSizeTokens].filterMap id

def validateUsage (usage : ParsedRuntimeUsage) : Except String Unit := do
  validateKey usage.identitySuffix "source identity"
  validateKey usage.dialectId "dialect"
  if usage.source ∉ ["runtime_event", "runtime_result", "runtime_private_extension", "provider_usage_api",
      "local_tokenizer"] then
    .error "Runtime Usage source is unsupported"
  else if usage.scope ∉ ["model_call", "turn", "run", "session"] then .error "Runtime Usage scope is unsupported"
  else if usage.fields.values.any (fun value => decide (value < 0) || decide (value.toNat > jsMaxSafeInteger)) then
    .error "Runtime Usage token field is outside the safe integer range"
  else
    match usage.cost with
    | some cost => validateCost cost
    | none => .ok ()

/-! ## Normalization -/

def inputTotals (semantics : RuntimeInputSemantics) (input read write : Option Nat) :
    Except String (Option Nat × Option Nat) :=
  match semantics with
  | .cacheInclusiveTotal =>
    match input, read, write with
    | some total, some read, some write =>
      if read + write > i64Max then .error "Runtime Usage cache bucket overflow"
      else if read + write > total then .error "Runtime Usage cache buckets exceed prompt input total"
      else .ok (some total, some (total - (read + write)))
    | _, _, _ => .ok (input, none)
  | .exclusiveBuckets =>
    match input, read, write with
    | some uncached, some read, some write =>
      if uncached + read + write > i64Max then .error "Runtime Usage prompt input total overflow"
      else .ok (some (uncached + read + write), input)
    | _, _, _ => .ok (none, input)
  | .unknown => .ok (none, none)

def uncachedInput : Option Nat → Option Nat → Except String (Option Nat)
  | some reported, some derived =>
    if reported ≠ derived then .error "Runtime Usage uncached input conflicts with bucket arithmetic" else .ok (some reported)
  | some reported, none => .ok (some reported)
  | none, derived => .ok derived

def reasoningExceedsOutput : Option Nat → Option Nat → Bool
  | some reasoning, some output => decide (reasoning > output)
  | _, _ => false

def normalizeUsage (usage : ParsedRuntimeUsage) : Except String UsageCounters := do
  validateUsage usage
  let read := usage.fields.cacheReadInputTokens.map Int.toNat
  let write := usage.fields.cacheWriteInputTokens.map Int.toNat
  let input := usage.fields.inputTokens.map Int.toNat
  let output := usage.fields.outputTokens.map Int.toNat
  let reasoning := usage.fields.reasoningOutputTokens.map Int.toNat
  let (promptTotal, derivedUncached) ← inputTotals usage.inputSemantics input read write
  let uncached ← uncachedInput (usage.fields.uncachedInputTokens.map Int.toNat) derivedUncached
  if reasoningExceedsOutput reasoning output then .error "Runtime Usage reasoning output exceeds output total"
  else
    -- Only a model call with an observed cache-read bucket proves a hit or a miss.
    let observable := usage.scope == "model_call" && read.isSome
    return fun
      | .promptInputTotalTokens => promptTotal
      | .uncachedInputTokens => uncached
      | .cacheReadTokens => read
      | .cacheWriteTokens => write
      | .outputTokens => output
      | .reasoningOutputTokens => reasoning
      | .cacheObservableRequestCount => if observable then some 1 else none
      | .cacheHitRequestCount => if observable then read.map (fun read => if read > 0 then 1 else 0) else none

/-! ## Keys -/

structure UsageRunKey where
  agentRunId : String
  executionEpoch : Nat
  deriving DecidableEq, Ord

structure RuntimeUsageRun where
  key : UsageRunKey
  runtimeKind : AgentRuns.AdapterKind
  (providerKey modelKey : Option String)

structure BufferedUsageKey where
  run : UsageRunKey
  (identitySuffix dialectId source scope : String)
  counterMode : RuntimeUsageCounterMode
  inputSemantics : RuntimeInputSemantics
  (nativeSessionId nativeTurnId costCurrency costQuality costGrain : Option String)
  deriving DecidableEq, Ord

def BufferedUsageKey.new (run : UsageRunKey) (usage : ParsedRuntimeUsage) : BufferedUsageKey where
  run := run
  identitySuffix := usage.identitySuffix
  dialectId := usage.dialectId
  source := usage.source
  scope := usage.scope
  counterMode := usage.counterMode
  inputSemantics := usage.inputSemantics
  nativeSessionId := usage.nativeSessionId
  nativeTurnId := usage.nativeTurnId
  costCurrency := usage.cost.map (·.currency)
  costQuality := usage.cost.map (·.quality)
  costGrain := usage.cost.map (·.grain)

@[simp] theorem BufferedUsageKey.new_run (run : UsageRunKey) (usage : ParsedRuntimeUsage) :
    (BufferedUsageKey.new run usage).run = run := rfl

structure SourceKey where
  runtimeKind : AgentRuns.AdapterKind
  (dialect suffix scope source : String)
  (nativeSession nativeTurn : Option String)
  deriving DecidableEq

def sourceKey (run : RuntimeUsageRun) (usage : ParsedRuntimeUsage) : SourceKey where
  runtimeKind := run.runtimeKind
  dialect := usage.dialectId
  suffix := usage.identitySuffix
  scope := usage.scope
  source := usage.source
  nativeSession := usage.nativeSessionId
  nativeTurn := usage.nativeTurnId

end Rovai.Usage
