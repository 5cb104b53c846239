import Proceedings.Binary64.Numeric
import Proceedings.Failure
import Proceedings.Text.Upper

/-! # Settings

Where artifacts go and how they are named is set by environment variables, each with a default. An
empty webhook address means that there is no webhook.
-/

namespace Proceedings

abbrev Environment := List (String × String)

def Environment.get? (env : Environment) (name : String) : Option String :=
  (env.find? (·.1 == name)).map (·.2)

/-- What the environment sets. -/
structure Settings where
  outputDirectory : String
  fileSuffix : String
  webhookUrl : String
  webhookTimeout : Binary64
  logLevel : String

namespace Settings

/-- The address of the webhook, without blanks around it; empty if it is not set. -/
def webhookUrlOf (env : Environment) : String :=
  (Text.ofString ((env.get? "TRANSCRIPT_WEBHOOK_URL").getD "")).trim.display

def ofEnvironment (env : Environment) : Except Failure Settings :=
  let timeout := Text.ofString ((env.get? "TRANSCRIPT_WEBHOOK_TIMEOUT_S").getD "10")
  match Binary64.ofText? timeout with
  | none => .error (.notNumeric timeout)
  | some seconds => .ok
    { outputDirectory := (env.get? "TRANSCRIPT_OUTPUT_DIR").getD "transcripts"
      fileSuffix := (env.get? "TRANSCRIPT_FILE_SUFFIX").getD ".json"
      webhookUrl := webhookUrlOf env
      webhookTimeout := seconds
      logLevel := (Text.ofString ((env.get? "LOG_LEVEL").getD "INFO")).toUpper.display }

/-- The address of the webhook, where one is needed. -/
def requireWebhookUrl (env : Environment) : Except Failure String :=
  let url := webhookUrlOf env
  if url.isEmpty then .error .notConfigured else .ok url

end Settings

end Proceedings
