import Mathlib.Control.Monad.Basic
import SearchBridge.Proofs.Bodies
import SearchBridge.Proofs.Taxonomy
/-!
What a reply shows of the content of a response.

The value of a JSON body is kept whatever the status is. Of any other body the text is kept as the
message, unless the status is 200: the message of a success is its reason phrase, so what a proxy
says in place of the engine under that status is not shown.
-/

namespace SearchBridge

namespace Http

/-- A reply shows the content of a response: the value of the body, or the text of a body that is
no JSON text. -/
def Reply.ShowsContent (reply : Reply) (r : Response) : Prop :=
  r.Denotes reply.json ∨ (∀ v, ¬r.Denotes v) ∧ reply.json = .null ∧ r.text = .ok reply.message

/-- What a reply keeps of a response. -/
structure Reply.Keeps (reply : Reply) (r : Response) : Prop where
  status : reply.status = r.status
  /-- The value is kept whatever the status is. -/
  value : r.Denotes reply.json ∨ (∀ v, ¬r.Denotes v) ∧ reply.json = .null
  success : r.status = 200 → reply.message = (r.reason : Text)
  refusal : r.status ≠ 200 → ∃ text, r.text = .ok text ∧ reply.message = r.refusal text
  /-- A body that is no JSON text is shown only if its text stands in the message. -/
  shows_iff : reply.ShowsContent r ↔ (∃ v, r.Denotes v) ∨ ∃ text, r.text = .ok text ∧
    if r.status = 200 then text = (r.reason : Text)
    else text ≠ [] ∨ (r.reason : Text) = []

theorem Response.message_of_success {r : Response} {reply : Reply} (h : r.toReply = .ok reply)
    (hstatus : r.status = 200) : reply.message = (r.reason : Text) := by
  simp only [Response.toReply, Response.message, hstatus, if_true, bind, Except.bind] at h
  split at h
  · cases h
  · cases h
    rfl

/-- A refusal is the text itself, unless there is none but a reason phrase. -/
theorem Response.refusal_eq_iff {r : Response} {text : Text} :
    r.refusal text = text ↔ text ≠ [] ∨ (r.reason : Text) = [] := by
  cases text with
  | nil => simp [Response.refusal]
  | cons p rest => simp [Response.refusal]

/-- When the message of a reply is the text of the response. -/
theorem Response.text_eq_message_iff {r : Response} {reply : Reply} (h : r.toReply = .ok reply) :
    r.text = .ok reply.message ↔ ∃ text, r.text = .ok text ∧
      if r.status = 200 then text = (r.reason : Text)
      else text ≠ [] ∨ (r.reason : Text) = [] := by
  by_cases hok : r.status = 200
  · rw [message_of_success h hok]
    simp [hok]
  · obtain ⟨text, htext, hmessage⟩ := message_of_toReply h hok
    rw [htext, hmessage]
    simp only [if_neg hok]
    constructor
    · intro hshown
      exact ⟨text, rfl, refusal_eq_iff.mp (Except.ok.inj hshown).symm⟩
    · rintro ⟨shown, hshown, hnonempty⟩
      obtain rfl := Except.ok.inj hshown
      exact congrArg Except.ok (refusal_eq_iff.mpr hnonempty).symm

theorem Reply.keeps_of_toReply {r : Response} {reply : Reply} (h : r.toReply = .ok reply) :
    reply.Keeps r := by
  obtain ⟨hstatus, hjson⟩ := Response.json_of_toReply h
  have hvalue := Response.json_cases hjson
  constructor
  case status => exact hstatus
  case value => exact hvalue
  case success => exact Response.message_of_success h
  case refusal => exact Response.message_of_toReply h
  case shows_iff =>
    rw [← Response.text_eq_message_iff h]
    constructor
    · rintro (hdenotes | ⟨-, -, hshown⟩)
      · exact Or.inl ⟨_, hdenotes⟩
      · exact Or.inr hshown
    · intro hshows
      rcases hvalue with hkept | ⟨hnone, hnull⟩
      · exact Or.inl hkept
      · rcases hshows with ⟨v, hdenotes⟩ | hshown
        · exact absurd hdenotes (hnone v)
        · exact Or.inr ⟨hnone, hnull, hshown⟩

/-- Every response of which a reply can be made comes back as one reply, whatever was requested. It
has the value of the body and, unless the status is 200, the text of the body. -/
theorem Response.reply_keeps_content {r : Response} (h : (Outcome.response r).Readable) :
    ∃ reply, (∀ q : Request, q.settle (.response r) = .ok reply) ∧ reply.Keeps r := by
  obtain ⟨reply, hreply⟩ := Outcome.readable_iff_regular.mp h
  exact ⟨reply, fun _ => Request.settle_of_toReply hreply, Reply.keeps_of_toReply hreply⟩

/-- An engine that fails and says so in plain text. -/
def shardFailure : Response := .recorded 500 (Utf8.encode "shard failure") (some "text/plain")

theorem shardFailure_kept : (Outcome.response shardFailure).Readable ∧
    ∃ reply, (∀ q : Request, q.settle (.response shardFailure) = .ok reply) ∧
      reply.Keeps shardFailure := by
  have hreadable : (Outcome.response shardFailure).Readable :=
    Outcome.readable_iff_regular.mpr ⟨⟨500, "shard failure", .null⟩, by decide +kernel⟩
  exact ⟨hreadable, Response.reply_keeps_content hreadable⟩

/-- A page that a proxy answers with in place of the engine. -/
def proxyPage : Response :=
  .recorded 200 (Utf8.encode "<html>proxy</html>") (some "text/html")

/-- A failure whose body is a byte order mark and no text. -/
def markOnly : Response :=
  .recorded 500 [0xFF, 0xFE] (some "text/plain; charset=utf-16")

theorem Reply.not_showsContent {reply : Reply} {r : Response} (hnone : ∀ v, ¬r.Denotes v)
    (htext : r.text ≠ .ok reply.message) : ¬reply.ShowsContent r := by
  rintro (hdenotes | ⟨-, -, hshown⟩)
  · exact hnone _ hdenotes
  · exact htext hshown

/-- A body that arrays in one another are written in. -/
def nestedArrays (n : Nat) : List UInt8 := Utf8.encode (Json.nest n).text

theorem settle_nestedArrays {depth n : Nat} (h : depth ≤ n) (q : Request) :
    ∃ fault, q.settle (.response ⟨200, nestedArrays n, none, none, depth⟩) =
      .error (.exchange fault) := by
  obtain ⟨c, hreply⟩ := Response.toReply_too_deep
    (r := ⟨200, nestedArrays n, none, none, depth⟩) (Json.legible_nest n) rfl
    (Json.not_fits_nest h)
  refine ⟨.response (.nested c), ?_⟩
  rw [Request.settle, hreply]
  rfl

/-- Neither the value nor the message of a reply shows a body that is no JSON text if the status is
200, or if the body has no text. There is no reply at all if the text cannot be decoded, or if the
reader of a JSON body takes no more containers in one another than the body has. -/
theorem content_not_shown :
    (proxyPage.body ≠ [] ∧ (∀ v, ¬proxyPage.Denotes v) ∧
      proxyPage.text = .ok "<html>proxy</html>" ∧
      ∃ reply, (∀ q : Request, q.settle (.response proxyPage) = .ok reply) ∧
        reply = ⟨200, "OK", .null⟩ ∧ ¬reply.ShowsContent proxyPage) ∧
    (markOnly.body ≠ [] ∧ (∀ v, ¬markOnly.Denotes v) ∧ markOnly.text = .ok [] ∧
      ∃ reply, (∀ q : Request, q.settle (.response markOnly) = .ok reply) ∧
        reply = ⟨500, "Internal Server Error", .null⟩ ∧ ¬reply.ShowsContent markOnly) ∧
    (Call.errorPage.body ≠ [] ∧
      ∀ q : Request, ∃ fault, q.settle (.response Call.errorPage) = .error (.exchange fault)) ∧
    (Unicode.decodeDetected? (nestedArrays 100000)).bind Json.read? = some (.nest 100000) ∧
      ∀ depth ≤ 100000, ∀ q : Request, ∃ fault,
        q.settle (.response ⟨200, nestedArrays 100000, none, none, depth⟩) =
          .error (.exchange fault) := by
  have hproxy : ∀ v, ¬proxyPage.Denotes v :=
    Response.not_denotes_of_malformed (t := Text.ofString "<html>proxy</html>") 0
      (by decide +kernel) (by decide +kernel)
  have hmark : ∀ v, ¬markOnly.Denotes v :=
    Response.not_denotes_of_malformed (t := []) 0 (by decide +kernel) (by decide +kernel)
  have hproxyReply : proxyPage.toReply = .ok ⟨200, "OK", .null⟩ := by decide +kernel
  have hmarkReply : markOnly.toReply = .ok ⟨500, "Internal Server Error", .null⟩ := by
    decide +kernel
  refine ⟨⟨by decide +kernel, hproxy, by decide +kernel, _,
      fun _ => Request.settle_of_toReply hproxyReply, rfl, ?_⟩,
    ⟨by decide +kernel, hmark, by decide +kernel, _,
      fun _ => Request.settle_of_toReply hmarkReply, rfl, ?_⟩,
    ⟨by decide +kernel, fun q => ?_⟩, (Json.legible_nest 100000).read?_body,
    fun _ => settle_nestedArrays⟩
  · exact Reply.not_showsContent hproxy (by decide +kernel)
  · exact Reply.not_showsContent hmark (by decide +kernel)
  · have hfailed : Call.errorPage.toReply.toBool = false := by decide +kernel
    rw [Request.settle]
    cases hreply : Call.errorPage.toReply with
    | ok reply =>
        rw [hreply] at hfailed
        cases hfailed
    | error fault => exact ⟨.response fault, rfl⟩

end Http

end SearchBridge
