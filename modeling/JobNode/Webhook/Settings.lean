import JobNode.Json.Decode

/-!
# Settings of the webhook
-/

namespace JobNode

/-- Where and how completion messages are posted. -/
structure WebhookSettings where
  /-- The target; nothing is delivered when it is empty. -/
  url : String := ""
  /-- Seconds that a request may take. -/
  timeoutSecs : Nat := 30
  /-- Further headers of every request, in the order they were given. -/
  headers : List (String × String) := []
  deriving DecidableEq

namespace WebhookSettings

instance : Inhabited WebhookSettings := ⟨{}⟩

open Json

/-- The settings of a webhook; each of them may be missing. -/
def decode : Decoder WebhookSettings :=
  let headers := Decode.list (Decode.pair Decode.string Decode.string)
  let fallback : WebhookSettings := {}
  Decode.record "WebhookSettings" ["url", "timeout_secs", "headers"]
    (fun fields => do
      let headers ← Decode.field? fields "headers" headers
      let timeoutSecs ← Decode.field? fields "timeout_secs" Decode.word64
      let url ← Decode.field? fields "url" Decode.string
      .ok
        { url := url.getD fallback.url
          timeoutSecs := timeoutSecs.getD fallback.timeoutSecs
          headers := headers.getD fallback.headers })
    (fun ts => do
      let url ← Decode.itemOr fallback.url ts 0 Decode.string
      let timeoutSecs ← Decode.itemOr fallback.timeoutSecs ts 1 Decode.word64
      let headers ← Decode.itemOr fallback.headers ts 2 headers
      .ok { url, timeoutSecs, headers })

end WebhookSettings

end JobNode
