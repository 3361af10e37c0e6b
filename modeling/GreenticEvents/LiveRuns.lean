import GreenticEvents.DryRunReports

namespace GreenticEvents
open Data Effects Prog

variable {ReplyScope : Type} {host : RunnerHost ReplyScope} {options : E2eOptions}

/-- A request that is made of the command in the variable `name`. -/
def Requested (name : String) (payload : Json) : Prop :=
  ∃ op, payload.get "op" = some (.string op) ∧
    (name = liveBridgeCmdEnv ∧ op ∈ ["ingest", "emit"] ∨
      name = liveBrokerCmdEnv ∧ op ∈ ["subscribe", "publish", "next_event", "ack_event"])

/-- The dry-run guard reads this variable, the last one only where a report is wanted. -/
def GuardVar (reportPath : Option String) (name : String) : Prop :=
  name ∈ dryRunVars ∨ reportPath.isSome = true ∧ name = allowWriteEnv

/-- What may be asked of the host after `past`. -/
def Allowed (options : E2eOptions) (past : List (Event hostInterface)) : HostOp → Prop
  | .var name => options.live = false ∧ options.dryRun = true ∧ GuardVar options.reportPath name ∨
      options.live = true ∧ options.dryRun = false ∧
        (name = liveBridgeCmdEnv ∨ name = liveBrokerCmdEnv)
  | .command exe args payload => options.live = true ∧ options.dryRun = false ∧
      ∃ name text, ⟨.var name, text⟩ ∈ past ∧ splitWhitespace text = exe :: args ∧
        Requested name payload
  | .check _ _ => options.live = false ∧
      (options.dryRun = true → GuardRead options.reportPath past)

section Commands

variable {past : List (Event hostInterface)} {name text : String}

end Commands

section LiveStages

variable {pack : PackLoad} {providers : List EventProviderSpec}
  {piece : List (Event hostInterface)}

end LiveStages

end GreenticEvents
