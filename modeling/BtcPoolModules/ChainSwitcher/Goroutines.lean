/-
  BtcPoolModules.ChainSwitcher.Goroutines — the three goroutines of `chainSwitcher` and the
  globals they share: `updateChain`, `failSafe` and `readResponse` read and write
  `currentChainName`, `updateTime` and `commandID` with no lock.

  A step of the model is one access to a global, so every interleaving of the goroutines is a
  run: `updateCurrentChain` reads `currentChainName` before its HTTP request and again after
  writing it, `sendCurrentChainToKafka` reads `commandID`, writes it, and reads it with the
  chain name for the command, and `failSafe` reads the chain name for its row after the command
  is sent.  What the dispatch API, the hashrate queries and the processor topic return, and the
  clock, are the inputs of the steps.  Each access is atomic, so the runs are the sequentially
  consistent executions: a racy read of a Go string that pairs one write's pointer with
  another's length (a torn read, which the Go memory model allows) is left out.

  Main results:
    * `run_named` — over every run from the start, whatever the inputs and however the
      goroutines interleave, every command written to Kafka and every row inserted names the
      fail-safe chain, a chain name of the configuration, or no chain.
    * `run_currentChainName_ne_empty` — when the fail-safe chain is not empty, once a chain is
      set it stays set, over every run.
-/
import Mathlib.Algebra.Ring.Int.Defs
import BtcPoolModules.ChainSwitcher.UpdateCurrentChain

namespace BtcPoolModules.ChainSwitcher

/-! ## §1. Commands, rows, and where each goroutine stands. -/

/-- `KafkaCommand`, as `sendCurrentChainToKafka` builds it; its `type` and `action` are always
`sserver_cmd` and `auto_switch_chain`. -/
structure KafkaCommand where
  id : UInt64
  createdAt : ℤ
  chainName : String

/-- The `api_result` of a row: the dispatch API's body, or `ActionFailSafeSwitch`. -/
inductive ApiResult where
  | body (body : List UInt8)
  | failSafeSwitch (lastUpdateTime currentTime : ℤ) (oldChainName newChainName : String)

/-- A row `insertStmt` inserts: `prev_chain`, `curr_chain` and `api_result`; its `algorithm` is
the configured one. -/
structure SwitchRecord where
  prevChain : String
  currChain : String
  apiResult : ApiResult

/-- What `updateCurrentChain` gets from `ChainDispatchAPI`. -/
inductive DispatchResponse where
  /-- `http.Get` fails. -/
  | requestFailed
  /-- `ioutil.ReadAll` fails. -/
  | fetchBodyFailed
  /-- The body is not a `ChainDispatchRecord`. -/
  | parseFailed
  /-- The body, and the coins of each algorithm in it. -/
  | record (body : List UInt8) (algorithms : String → Option (List String))

/-- The body and the coins of `algorithm`; `none` where `updateCurrentChain` returns early. -/
def DispatchResponse.coins (algorithm : String) : DispatchResponse → Option (List UInt8 × List String)
  | .record body algorithms => (algorithms algorithm).map fun coins => (body, coins)
  | _ => none

/-- Where a goroutine stands in `sendCurrentChainToKafka`. -/
inductive SendPc where
  /-- `commandID++` reads `commandID` … -/
  | incRead
  /-- … and writes it back plus one. -/
  | incWrite (id : UInt64)
  /-- The composite literal reads `commandID` and `currentChainName`. -/
  | build
  /-- `WriteMessages` writes the command. -/
  | write (command : KafkaCommand)

/-- Where `updateChain` stands, with the locals of `updateCurrentChain`. -/
inductive UpdatePc where
  /-- `oldChainName := currentChainName`. -/
  | start
  /-- The request, the decoding, the loop over the coins, and `currentChainName = bestChain`. -/
  | fetch (old : String)
  /-- `updateTime = time.Now().Unix()`. -/
  | setUpdateTime (old : String) (body : List UInt8)
  /-- `if oldChainName != currentChainName`. -/
  | compare (old : String) (body : List UInt8)
  /-- `insertStmt.Exec(…, oldChainName, currentChainName, body)`. -/
  | insert (old : String) (body : List UInt8)
  /-- `if currentChainName != ""` in `updateChain`. -/
  | checkSend
  /-- `sendCurrentChainToKafka`, then the sleep. -/
  | send (s : SendPc)

/-- Where `failSafe` stands, with `now` and `oldChainName`. -/
inductive FailSafePc where
  /-- The sleep, `now := time.Now().Unix()`, and `if updateTime+FailSafeSeconds < now`. -/
  | check
  /-- `oldChainName := currentChainName`. -/
  | readOld (now : ℤ)
  /-- `currentChainName = configData.FailSafeChain`. -/
  | setChain (now : ℤ) (old : String)
  /-- `sendCurrentChainToKafka`. -/
  | send (now : ℤ) (old : String) (s : SendPc)
  /-- `ActionFailSafeSwitch{…, updateTime, now, oldChainName, currentChainName}`. -/
  | result (now : ℤ) (old : String)
  /-- `insertStmt.Exec(…, oldChainName, currentChainName, bytes)`. -/
  | insert (now : ℤ) (old : String) (result : ApiResult)
  /-- `updateTime = now`. -/
  | setUpdateTime (now : ℤ)

/-- Where `readResponse` stands. -/
inductive ReadPc where
  /-- `ReadMessage` and the decoding. -/
  | read
  /-- `sendCurrentChainToKafka` for an `online` notification. -/
  | send (s : SendPc)

/-- The globals, the three goroutines, and what they have written: the commands on the
controller topic and the rows of the switch table, oldest first. -/
structure World where
  currentChainName : String
  updateTime : ℤ
  commandID : UInt64
  update : UpdatePc
  failSafe : FailSafePc
  reader : ReadPc
  commands : List KafkaCommand
  records : List SwitchRecord

/-- `main` starts `failSafe` and `readResponse`, then runs `updateChain`; the globals are zero. -/
def World.init : World :=
  ⟨"", 0, 0, .start, .check, .read, [], []⟩

/-- A step of one goroutine, with its inputs: the clock, and for `updateChain` what the dispatch
API and the hashrate queries return, for `readResponse` the `type` and `action` of the message
read (`none` when reading or decoding fails). -/
inductive Event (F : Type) where
  | updateChain (now : ℤ) (resp : DispatchResponse) (query : ℕ → QueryResult F)
  | failSafe (now : ℤ)
  | readResponse (now : ℤ) (msg : Option (String × String))

/-! ## §2. The steps. -/

/-- One step of `sendCurrentChainToKafka`; `none` once it has returned. -/
def sendStep (now : ℤ) (w : World) : SendPc → World × Option SendPc
  | .incRead => (w, some (.incWrite w.commandID))
  | .incWrite id => ({ w with commandID := id + 1 }, some .build)
  | .build => (w, some (.write ⟨w.commandID, now, w.currentChainName⟩))
  | .write command => ({ w with commands := w.commands ++ [command] }, none)

section Steps

variable {F : Type} [Zero F] [Mul F] [Div F] [OfNat F 300] [LT F] [∀ a b : F, Decidable (a < b)]
variable (cfg : ChainSwitcherConfig F)

/-- One step of `updateChain`. -/
def stepUpdate (now : ℤ) (resp : DispatchResponse) (query : ℕ → QueryResult F) (w : World) :
    World :=
  match w.update with
  | .start => { w with update := .fetch w.currentChainName }
  | .fetch old =>
    match resp.coins cfg.algorithm with
    | none => { w with update := .checkSend }
    | some (body, coins) =>
      if bestChainFrom cfg query 0 coins ≠ "" then
        { w with currentChainName := bestChainFrom cfg query 0 coins,
                 update := .setUpdateTime old body }
      else { w with update := .compare old body }
  | .setUpdateTime old body => { w with updateTime := now, update := .compare old body }
  | .compare old body =>
    { w with update := if old ≠ w.currentChainName then .insert old body else .checkSend }
  | .insert old body =>
    { w with records := w.records ++ [⟨old, w.currentChainName, .body body⟩],
             update := .checkSend }
  | .checkSend =>
    { w with update := if w.currentChainName ≠ "" then .send .incRead else .start }
  | .send s =>
    let r := sendStep now w s
    { r.1 with update := (r.2.map .send).getD .start }

/-- One step of `failSafe`. -/
def stepFailSafe (now : ℤ) (w : World) : World :=
  match w.failSafe with
  | .check =>
    if w.updateTime + cfg.failSafeSeconds < now then { w with failSafe := .readOld now } else w
  | .readOld t => { w with failSafe := .setChain t w.currentChainName }
  | .setChain t old =>
    { w with currentChainName := cfg.failSafeChain, failSafe := .send t old .incRead }
  | .send t old s =>
    let r := sendStep now w s
    { r.1 with failSafe := (r.2.map (.send t old)).getD (.result t old) }
  | .result t old =>
    { w with failSafe := .insert t old (.failSafeSwitch w.updateTime t old w.currentChainName) }
  | .insert t old result =>
    { w with records := w.records ++ [⟨old, w.currentChainName, result⟩],
             failSafe := .setUpdateTime t }
  | .setUpdateTime t => { w with updateTime := t, failSafe := .check }

/-- One step of `readResponse`: only an `online` notification of a server starts a send. -/
def stepReader (now : ℤ) (msg : Option (String × String)) (w : World) : World :=
  match w.reader with
  | .read => if msg = some ("sserver_notify", "online") then { w with reader := .send .incRead } else w
  | .send s =>
    let r := sendStep now w s
    { r.1 with reader := (r.2.map .send).getD .read }

/-- A step of the goroutine the event names. -/
def step : Event F → World → World
  | .updateChain now resp query, w => stepUpdate cfg now resp query w
  | .failSafe now, w => stepFailSafe cfg now w
  | .readResponse now msg, w => stepReader now msg w

/-- The steps of a run, in order. -/
def run (w : World) (events : List (Event F)) : World :=
  events.foldl (fun w e => step cfg e w) w

/-! ## §3. Every chain name the switcher holds. -/

end Steps

/-- A chain name the switcher may hold: none yet, the fail-safe chain, or a chain name of the
configuration. -/
def ChainSwitcherConfig.Named {F : Type} (cfg : ChainSwitcherConfig F) (c : String) : Prop :=
  c = "" ∨ c = cfg.failSafeChain ∨ cfg.IsChainName c

/-- The chain name a goroutine holds in `sendCurrentChainToKafka`. -/
def SendPc.names : SendPc → List String
  | .write command => [command.chainName]
  | _ => []

/-- The chain names `updateChain` holds: `oldChainName` and the command it sends. -/
def UpdatePc.names : UpdatePc → List String
  | .fetch old => [old]
  | .setUpdateTime old _ => [old]
  | .compare old _ => [old]
  | .insert old _ => [old]
  | .send s => s.names
  | _ => []

/-- The chain names `failSafe` holds: `oldChainName` and the command it sends. -/
def FailSafePc.names : FailSafePc → List String
  | .setChain _ old => [old]
  | .send _ old s => old :: s.names
  | .result _ old => [old]
  | .insert _ old _ => [old]
  | _ => []

/-- The chain name `readResponse` holds: the command it sends. -/
def ReadPc.names : ReadPc → List String
  | .read => []
  | .send s => s.names

section Named

variable {F : Type} {cfg : ChainSwitcherConfig F}

/-- Every chain name in the globals, the goroutines, the commands and the rows is one the
switcher may hold. -/
structure World.Named (cfg : ChainSwitcherConfig F) (w : World) : Prop where
  current : cfg.Named w.currentChainName
  update : ∀ c ∈ w.update.names, cfg.Named c
  failSafe : ∀ c ∈ w.failSafe.names, cfg.Named c
  reader : ∀ c ∈ w.reader.names, cfg.Named c
  commands : ∀ command ∈ w.commands, cfg.Named command.chainName
  records : ∀ r ∈ w.records, cfg.Named r.prevChain ∧ cfg.Named r.currChain

theorem World.init_named : World.init.Named cfg :=
  ⟨.inl rfl, fun _ h => (List.not_mem_nil _ h).elim, fun _ h => (List.not_mem_nil _ h).elim,
    fun _ h => (List.not_mem_nil _ h).elim, fun _ h => (List.not_mem_nil _ h).elim,
    fun _ h => (List.not_mem_nil _ h).elim⟩

theorem named_singleton {a : String} (h : cfg.Named a) : ∀ c ∈ [a], cfg.Named c :=
  fun _ hc => List.mem_singleton.1 hc ▸ h

theorem named_nil : ∀ c ∈ ([] : List String), cfg.Named c :=
  fun _ hc => (List.not_mem_nil _ hc).elim

/-- A step of `sendCurrentChainToKafka` keeps every chain name one the switcher may hold, and
so does the step of the send it goes on with. -/
theorem sendStep_named {w : World} (hw : w.Named cfg) {s : SendPc}
    (hs : ∀ c ∈ s.names, cfg.Named c) (now : ℤ) :
    (sendStep now w s).1.Named cfg ∧ ∀ s' ∈ (sendStep now w s).2, ∀ c ∈ s'.names, cfg.Named c := by
  cases s with
  | incRead => exact ⟨hw, by simp [sendStep, SendPc.names]⟩
  | incWrite id => exact ⟨{ hw with }, by simp [sendStep, SendPc.names]⟩
  | build => exact ⟨hw, by simpa [sendStep, SendPc.names] using hw.current⟩
  | write command =>
    exact ⟨{ hw with commands := (List.forall_mem_append.2
      ⟨hw.commands, List.forall_mem_singleton.2 (hs _ (List.mem_singleton_self _))⟩) },
      by simp [sendStep]⟩

/-- A step of `failSafe` keeps every chain name one the switcher may hold: the only new one is
the fail-safe chain. -/
theorem stepFailSafe_named {w : World} (hw : w.Named cfg) (now : ℤ) :
    (stepFailSafe cfg now w).Named cfg := by
  have hf := hw.failSafe
  cases h : w.failSafe with
  | check =>
    simp only [stepFailSafe, h]
    split_ifs
    · exact { hw with failSafe := named_nil }
    · exact hw
  | readOld t =>
    simp only [stepFailSafe, h]
    exact { hw with failSafe := named_singleton hw.current }
  | setChain t old =>
    rw [h] at hf
    simp only [stepFailSafe, h]
    exact { hw with current := .inr (.inl rfl), failSafe := hf }
  | send t old s =>
    rw [h] at hf
    simp only [stepFailSafe, h]
    have hold : cfg.Named old := hf old (List.mem_cons_self _ _)
    obtain ⟨hr, hnext⟩ := sendStep_named hw (fun c hc => hf c (List.mem_cons_of_mem _ hc)) now
    refine { hr with failSafe := ?_ }
    cases hs : (sendStep now w s).2 with
    | none => exact named_singleton hold
    | some s' =>
      rintro c (_ | ⟨_, hc⟩)
      · exact hold
      · exact hnext s' hs c hc
  | result t old =>
    rw [h] at hf
    simp only [stepFailSafe, h]
    exact { hw with failSafe := hf }
  | insert t old result =>
    rw [h] at hf
    simp only [stepFailSafe, h]
    exact { hw with failSafe := named_nil, records := (List.forall_mem_append.2
      ⟨hw.records, List.forall_mem_singleton.2 ⟨hf old (List.mem_singleton_self _), hw.current⟩⟩) }
  | setUpdateTime t =>
    simp only [stepFailSafe, h]
    exact { hw with failSafe := named_nil }

/-- A step of `readResponse` keeps every chain name one the switcher may hold. -/
theorem stepReader_named {w : World} (hw : w.Named cfg) (now : ℤ)
    (msg : Option (String × String)) : (stepReader now msg w).Named cfg := by
  have hr := hw.reader
  cases h : w.reader with
  | read =>
    simp only [stepReader, h]
    split_ifs
    · exact { hw with reader := named_nil }
    · exact hw
  | send s =>
    rw [h] at hr
    simp only [stepReader, h]
    obtain ⟨hr', hnext⟩ := sendStep_named hw hr now
    refine { hr' with reader := ?_ }
    cases hs : (sendStep now w s).2 with
    | none => exact named_nil
    | some s' => exact hnext s' hs

end Named

section Preserve

variable {F : Type} [Zero F] [Mul F] [Div F] [OfNat F 300] [LT F] [∀ a b : F, Decidable (a < b)]
variable {cfg : ChainSwitcherConfig F}

/-- A step of `updateChain` keeps every chain name one the switcher may hold: the only new one
is the chain the loop over the coins picks. -/
theorem stepUpdate_named {w : World} (hw : w.Named cfg) (now : ℤ)
    (resp : DispatchResponse) (query : ℕ → QueryResult F) :
    (stepUpdate cfg now resp query w).Named cfg := by
  have hu := hw.update
  cases h : w.update with
  | start =>
    simp only [stepUpdate, h]
    exact { hw with update := named_singleton hw.current }
  | fetch old =>
    rw [h] at hu
    simp only [stepUpdate, h]
    cases hc : resp.coins cfg.algorithm with
    | none => exact { hw with update := named_nil }
    | some bc =>
      obtain ⟨body, coins⟩ := bc
      dsimp only
      split_ifs
      · refine { hw with current := ?_, update := hu }
        rcases bestChainFrom_named cfg query 0 coins with hfs | hname
        · exact .inr (.inl hfs)
        · exact .inr (.inr hname)
      · exact { hw with update := hu }
  | setUpdateTime old body =>
    rw [h] at hu
    simp only [stepUpdate, h]
    exact { hw with update := hu }
  | compare old body =>
    rw [h] at hu
    simp only [stepUpdate, h]
    split_ifs
    · exact { hw with update := hu }
    · exact { hw with update := named_nil }
  | insert old body =>
    rw [h] at hu
    simp only [stepUpdate, h]
    exact { hw with update := named_nil, records := (List.forall_mem_append.2
      ⟨hw.records, List.forall_mem_singleton.2 ⟨hu old (List.mem_singleton_self _), hw.current⟩⟩) }
  | checkSend =>
    simp only [stepUpdate, h]
    split_ifs
    · exact { hw with update := named_nil }
    · exact { hw with update := named_nil }
  | send s =>
    rw [h] at hu
    simp only [stepUpdate, h]
    obtain ⟨hr, hnext⟩ := sendStep_named hw hu now
    refine { hr with update := ?_ }
    cases hs : (sendStep now w s).2 with
    | none => exact named_nil
    | some s' => exact hnext s' hs

theorem step_named {w : World} (hw : w.Named cfg) (e : Event F) : (step cfg e w).Named cfg := by
  cases e with
  | updateChain now resp query => exact stepUpdate_named hw now resp query
  | failSafe now => exact stepFailSafe_named hw now
  | readResponse now msg => exact stepReader_named hw now msg

theorem run_keeps_named {w : World} (hw : w.Named cfg) (events : List (Event F)) :
    (run cfg w events).Named cfg := by
  induction events generalizing w with
  | nil => exact hw
  | cons e events ih => exact ih (step_named hw e)

/-- **Every chain the switcher sends or records is one it may hold.**  Over every run from the
start, whatever the dispatch API, the hashrate queries and the processor topic return, and
however the three goroutines interleave their accesses to the globals, each access atomic,
every command written to Kafka and every row inserted names the fail-safe chain, a chain name
of the configuration, or no chain: a coin of the dispatch API without a chain name never
reaches a server. -/
theorem run_named (cfg : ChainSwitcherConfig F) (events : List (Event F)) :
    (∀ command ∈ (run cfg World.init events).commands, cfg.Named command.chainName) ∧
      ∀ r ∈ (run cfg World.init events).records, cfg.Named r.prevChain ∧ cfg.Named r.currChain :=
  ⟨(run_keeps_named World.init_named events).commands,
    (run_keeps_named World.init_named events).records⟩

end Preserve

/-! ## §4. A chain once set stays set. -/

section Stable

variable {F : Type} {cfg : ChainSwitcherConfig F}

@[simp] theorem sendStep_currentChainName (now : ℤ) (w : World) (s : SendPc) :
    (sendStep now w s).1.currentChainName = w.currentChainName := by
  cases s <;> rfl

/-- `failSafe` writes the chain name only with the fail-safe chain. -/
theorem stepFailSafe_currentChainName (cfg : ChainSwitcherConfig F) (now : ℤ) (w : World) :
    (stepFailSafe cfg now w).currentChainName = w.currentChainName ∨
      (stepFailSafe cfg now w).currentChainName = cfg.failSafeChain := by
  unfold stepFailSafe
  split
  · split_ifs <;> exact .inl rfl
  · exact .inl rfl
  · exact .inr rfl
  all_goals exact .inl (by simp)

/-- `readResponse` never writes the chain name. -/
theorem stepReader_currentChainName (now : ℤ) (msg : Option (String × String)) (w : World) :
    (stepReader now msg w).currentChainName = w.currentChainName := by
  unfold stepReader
  split
  · split_ifs <;> rfl
  · simp

variable [Zero F] [Mul F] [Div F] [OfNat F 300] [LT F] [∀ a b : F, Decidable (a < b)]

/-- `updateChain` writes the chain name only with a chain that is not empty. -/
theorem stepUpdate_currentChainName (cfg : ChainSwitcherConfig F) (now : ℤ) (resp : DispatchResponse)
    (query : ℕ → QueryResult F) (w : World) :
    (stepUpdate cfg now resp query w).currentChainName = w.currentChainName ∨
      (stepUpdate cfg now resp query w).currentChainName ≠ "" := by
  unfold stepUpdate
  split
  · exact .inl rfl
  · split
    · exact .inl rfl
    · split_ifs with h
      · exact .inr h
      · exact .inl rfl
  all_goals exact .inl (by simp)

/-- **A chain once set stays set.**  When the fail-safe chain is not empty, from any state whose
chain name is set, every run keeps a chain name set: `updateChain` writes only the chain it picked
when that is not empty, and `failSafe` only the fail-safe chain. -/
theorem run_currentChainName_ne_empty (cfg : ChainSwitcherConfig F)
    (hfs : cfg.failSafeChain ≠ "") {w : World} (hw : w.currentChainName ≠ "")
    (events : List (Event F)) : (run cfg w events).currentChainName ≠ "" := by
  induction events generalizing w with
  | nil => exact hw
  | cons e events ih =>
    refine ih ?_
    cases e with
    | updateChain now resp query =>
      rcases stepUpdate_currentChainName cfg now resp query w with h | h
      · exact h ▸ hw
      · exact h
    | failSafe now =>
      rcases stepFailSafe_currentChainName cfg now w with h | h
      · exact h ▸ hw
      · exact h ▸ hfs
    | readResponse now msg => exact (stepReader_currentChainName now msg w).symm ▸ hw

end Stable

/-- A configuration for examples: `BTC` and `BCH` mined as `btc` and `bcc`, no limits, and `btc`
as the fail-safe chain. -/
def sampleConfig : ChainSwitcherConfig ℤ where
  algorithm := "SHA256"
  failSafeChain := "btc"
  failSafeSeconds := 600
  chainNameMap coin := if coin = "BTC" then some "btc" else if coin = "BCH" then some "bcc" else none
  chainLimits _ := none

theorem run_currentChainName_ne_empty_bcc :
    sampleConfig.failSafeChain ≠ "" ∧
    ({ World.init with currentChainName := "bcc" }).currentChainName ≠ "" ∧
    (run sampleConfig { World.init with currentChainName := "bcc" }
      [.failSafe 1000, .failSafe 1000, .failSafe 1000, .readResponse 1000 none]).currentChainName ≠ "" :=
  ⟨by decide, by decide, run_currentChainName_ne_empty sampleConfig (by decide) (by decide) _⟩

end BtcPoolModules.ChainSwitcher
