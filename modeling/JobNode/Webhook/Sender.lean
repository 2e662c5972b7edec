import JobNode.Error
import JobNode.Notification
import JobNode.Url.Basic
import JobNode.Webhook.Headers
import JobNode.Webhook.Settings

/-!
# Posting completion messages

A webhook posts each message to its address.  It is built from settings whose headers have to be
good even when it has no address, in which case it delivers nothing.
-/

namespace JobNode

/-- A webhook that is ready to post. -/
structure Webhook where
  settings : WebhookSettings
  headers : Dict String

namespace Webhook

/-- The webhook of settings, if there is room for its headers. -/
def create (room : Headers.Room) (settings : WebhookSettings) : Option (Except Error Webhook) :=
  (Headers.ofList room settings.headers).map fun
    | .ok headers => .ok ⟨settings, headers⟩
    | .error e => .error (.configuration e.message)

/-- The webhook has an address. -/
def isEnabled (w : Webhook) : Bool := !w.settings.url.isEmpty

/-- What becomes of a message before any connection is made. -/
inductive Request where
  | disabled
  | refused (cause : Error)
  /-- A request goes out to the address. -/
  | post (url : Url) (headers : Dict String) (body : Json)

/-- A request that cannot be built. -/
def cannotBuild (detail : String) : Request :=
  .refused (.notification ("webhook request failed: builder error" ++ detail))

/-- The request for a message. -/
def request (w : Webhook) (message : Notification) : Request :=
  if w.isEnabled then
    match (Url.parse? w.settings.url).map Url.withoutCredentials with
    | none => cannotBuild ""
    | some url =>
      if url.isHttp then .post url w.headers message.toJson
      else cannotBuild (" for url (" ++ url.toText ++ ")")
  else .disabled

end Webhook

end JobNode
