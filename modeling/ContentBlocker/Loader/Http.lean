import ContentBlocker.Loader.World
import ContentBlocker.Settings

/-!
# Requests over HTTP

The network of the program asks a client of HTTP, which a library makes. Whatever goes wrong with a
request, it has failed, and the error says how (`HttpTransport.exists_of_network_eq_error`): there
was no answer, or one that tells of no success, or its body could not be read.
-/

namespace ContentBlocker

/-- A request for what is at a location. -/
structure HttpRequest where
  location : String
  headers : List (String × String)
  deriving DecidableEq, Repr

/-- The answer to a request. -/
structure HttpResponse where
  code : Nat
  /-- The code and what it means, as it is shown. -/
  status : String
  /-- The text of the body, or why it could not be read. -/
  body : Except String String

/-- Whether an answer tells of success. -/
def HttpResponse.isSuccess (r : HttpResponse) : Bool :=
  200 ≤ r.code && r.code < 300

/-- Answers requests over HTTP, or tells why there is no answer. -/
abbrev HttpClient := HttpRequest → Except String HttpResponse

/-- A library that makes clients, given how many seconds a request may take. -/
abbrev HttpLibrary := (timeout : Nat) → Except String HttpClient

/-- A client with the name by which requests are made. -/
structure HttpTransport where
  client : HttpClient
  userAgent : String

namespace HttpTransport

/-- The transport with some settings, if there is a client for it. -/
def make (library : HttpLibrary) (settings : Settings) : Except Error HttpTransport :=
  match library settings.timeout with
  | .ok client => .ok { client, userAgent := settings.userAgent }
  | .error e => .error (.http e)

/-- The request for what is at a location. -/
def request (t : HttpTransport) (location : String) : HttpRequest where
  location := location
  headers := [("User-Agent", t.userAgent), ("Accept-Encoding", "gzip, deflate")]

/-- The network that a transport reaches. -/
def network (t : HttpTransport) : Network := fun location =>
  match t.client (t.request location) with
  | .error e => .error (.requestFailed s!"{location}: {e}")
  | .ok response =>
    if response.isSuccess then
      match response.body with
      | .ok body => .ok body
      | .error e => .error (.requestFailed s!"failed to read body of {location}: {e}")
    else .error (.requestFailed s!"URL {location} returned status code {response.status}")

/-- Only answers that tell of success have a body, and other requests have failed. -/
theorem network_eq_ok_iff {t : HttpTransport} {location body : String} :
    t.network location = .ok body ↔ ∃ response, t.client (t.request location) = .ok response ∧
      response.isSuccess = true ∧ response.body = .ok body := by
  unfold network
  cases t.client (t.request location) with
  | error e => simp
  | ok response =>
    cases hsuccess : response.isSuccess <;> cases hbody : response.body <;>
      simp [hsuccess, hbody]

theorem exists_of_network_eq_error {t : HttpTransport} {location : String} {e : Error}
    (h : t.network location = .error e) : ∃ request, e = .requestFailed request := by
  unfold network at h
  split at h
  · exact ⟨_, (Except.error.inj h).symm⟩
  · split at h
    · split at h
      · cases h
      · exact ⟨_, (Except.error.inj h).symm⟩
    · exact ⟨_, (Except.error.inj h).symm⟩

end HttpTransport

end ContentBlocker
