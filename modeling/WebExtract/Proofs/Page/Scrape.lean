import WebExtract.Http.Offline
import WebExtract.Page
import WebExtract.Proofs.Extract.Calls
import WebExtract.Proofs.Http.Following

/-!
# What a scrape comes to

A scrape announces itself, fetches the page and only then extracts. Fetching is over in one of four
ways: the client has no final response, the final response is no success, its body cannot be read,
or its text is there. In the first three the page is `Unavailable`, in the last it is `Available`.

The client is any function of addresses, so what is said here holds for all networks and all ways to
follow redirections; `Proofs.Http.Following` has those that follow a number of them.

**Results.**
* `available_or_unavailable`: each address is one or the other, for each client.
* `fetch_of_available`, `fetch_of_unavailable`: fetching, the same from every state of the caller.
* `load_eq_ok_iff`, `load_eq_error_iff`: a page is loaded exactly if there is a text.
* `scrapeWith_of_available`: a scrape is the extraction from the text, after the announcement.
* `scrapeWith_of_unavailable`: or it stops after the announcement, whatever the schema.
* `scrapeWith_stages`: which error a scrape ends with, and what was called and reported until then.

The errors name the address that the caller gave, and the status that the last address answered
with. Reporting the address that was led to would break `fetch_of_unavailable` and nothing else.
-/
namespace WebExtract

open Http

variable {σ : Type} {c : Client} {url text : String} {r : Response} {e : ScrapeError}

/-! ## Pages that are there -/

def Http.Response.Success (r : Response) : Prop := 200 ≤ r.status ∧ r.status ≤ 299

theorem Http.Response.isSuccess_iff (r : Response) : r.isSuccess = true ↔ r.Success := by
  simp [isSuccess, Success]

/-- The text at an address, and the response that it came with. -/
structure Available (c : Client) (url : String) (r : Response) (text : String) : Prop where
  obtains : c.get url = .ok r
  success : r.Success
  text : r.text = .ok text

/-- Why there is no text at an address. -/
inductive Unavailable (c : Client) (url : String) : ScrapeError → Prop
  | noResponse {e : RequestError} : c.get url = .error e → Unavailable c url (.request e)
  | noSuccess {r : Response} : c.get url = .ok r → ¬ r.Success →
    Unavailable c url (.status url r.status)
  | noText {r : Response} {e : RequestError} : c.get url = .ok r → r.Success →
    r.text = .error e → Unavailable c url (.request e)

theorem available_or_unavailable (c : Client) (url : String) :
    (∃ r text, Available c url r text) ∨ ∃ e, Unavailable c url e := by
  cases hr : c.get url with
  | error e => exact .inr ⟨_, .noResponse hr⟩
  | ok r =>
    by_cases hs : r.Success
    · cases ht : r.text with
      | error e => exact .inr ⟨_, .noText hr hs ht⟩
      | ok text => exact .inl ⟨r, text, hr, hs, ht⟩
    · exact .inr ⟨_, .noSuccess hr hs⟩

theorem unavailable_request_iff {e : RequestError} : Unavailable c url (.request e) ↔
    c.get url = .error e ∨ ∃ r, c.get url = .ok r ∧ r.Success ∧ r.text = .error e := by
  constructor
  · intro h
    cases h with
    | noResponse hr => exact .inl hr
    | noText hr hs ht => exact .inr ⟨_, hr, hs, ht⟩
  · rintro (hr | ⟨r, hr, hs, ht⟩)
    · exact .noResponse hr
    · exact .noText hr hs ht

theorem unavailable_status_iff {u : String} {status : Nat} : Unavailable c url (.status u status) ↔
    u = url ∧ ∃ r, c.get url = .ok r ∧ ¬ r.Success ∧ status = r.status := by
  constructor
  · intro h
    cases h with
    | noSuccess hr hs => exact ⟨rfl, _, hr, hs, rfl⟩
  · rintro ⟨rfl, r, hr, hs, rfl⟩
    exact .noSuccess hr hs

theorem not_unavailable_schema {e : SchemaError} : ¬ Unavailable c url (.schema e) := by
  intro h
  cases h

/-! ## Fetching -/

theorem fetch_of_available (h : Available c url r text) (s : σ) :
    (fetch c url).run s =
      ⟨.ok text, s, [.fetching url, .fetched url r.status text.utf8ByteSize]⟩ := by
  have hs := r.isSuccess_iff.2 h.success
  simp [fetch, h.obtains, hs, h.text, Except.mapError, Except.map]

theorem fetch_of_unavailable (h : Unavailable c url e) (s : σ) :
    (fetch c url).run s = ⟨.error e, s, [.fetching url]⟩ := by
  cases h with
  | noResponse hr => simp [fetch, hr, Except.mapError]
  | @noSuccess r hr hs =>
    rw [← r.isSuccess_iff] at hs
    simp [fetch, hr, hs, Except.mapError]
  | @noText r _ hr hs ht =>
    rw [← r.isSuccess_iff] at hs
    simp [fetch, hr, hs, ht, Except.mapError]

/-! ## Loading -/

theorem load_of_available (h : Available c url r text) (s : σ) :
    (Page.load c url).run s = ⟨.ok ⟨.of url, .parse text⟩, s,
      [.fetching url, .fetched url r.status text.utf8ByteSize]⟩ := by
  simp [Page.load, fetch_of_available h, Except.map]

theorem load_of_unavailable (h : Unavailable c url e) (s : σ) :
    (Page.load c url).run s = ⟨.error e, s, [.fetching url]⟩ := by
  simp [Page.load, fetch_of_unavailable h, Except.map]

theorem load_eq_ok_iff {p : Page} {s : σ} : ((Page.load c url).run s).result = .ok p ↔
    ∃ r text, Available c url r text ∧ p = ⟨.of url, .parse text⟩ := by
  constructor
  · intro h
    rcases available_or_unavailable c url with ⟨r, text, ha⟩ | ⟨e, he⟩
    · rw [load_of_available ha] at h
      exact ⟨r, text, ha, (Except.ok.inj h).symm⟩
    · rw [load_of_unavailable he] at h
      cases h
  · rintro ⟨r, text, ha, rfl⟩
    rw [load_of_available ha]

theorem load_eq_error_iff {s : σ} :
    ((Page.load c url).run s).result = .error e ↔ Unavailable c url e := by
  constructor
  · intro h
    rcases available_or_unavailable c url with ⟨r, text, ha⟩ | ⟨e', he⟩
    · rw [load_of_available ha] at h
      cases h
    · rw [load_of_unavailable he] at h
      cases h
      exact he
  · intro he
    rw [load_of_unavailable he]

/-! ## Scraping -/

/-- What is reported until the request is made. -/
def announcement (url : String) (o : Options) : List Event :=
  .scrape url :: (if o.js then [.scriptsIgnored] else []) ++ [.fetching url]

theorem scrapeWith_of_available (h : Available c url r text) (S : Schema σ) (o : Options)
    (s : σ) : (scrapeWith c url S o).run s =
      ⟨((S.extract (.parse text)).run s).result, ((S.extract (.parse text)).run s).state,
        announcement url o ++ .fetched url r.status text.utf8ByteSize ::
          ((S.extract (.parse text)).run s).events⟩ := by
  have hl := load_of_available (σ := σ) h
  cases hj : o.js <;> simp [scrapeWith, Page.extract, announcement, hj, hl]

theorem scrapeWith_of_unavailable (h : Unavailable c url e) (S : Schema σ) (o : Options) (s : σ) :
    (scrapeWith c url S o).run s = ⟨.error e, s, announcement url o⟩ := by
  have hl := load_of_unavailable (σ := σ) h
  cases hj : o.js <;> simp [scrapeWith, announcement, hj, hl]

/-- The errors of a scrape: those of pages that are not there, and those of computed fields. -/
theorem scrapeWith_error_iff {S : Schema σ} {o : Options} {s : σ} :
    ((scrapeWith c url S o).run s).result = .error e ↔ Unavailable c url e ∨
      ∃ r text, Available c url r text ∧ ((S.extract (.parse text)).run s).result = .error e := by
  constructor
  · intro h
    rcases available_or_unavailable c url with ⟨r, text, ha⟩ | ⟨e', he⟩
    · rw [scrapeWith_of_available ha] at h
      exact .inr ⟨r, text, ha, h⟩
    · rw [scrapeWith_of_unavailable he] at h
      cases h
      exact .inl he
  · rintro (he | ⟨r, text, ha, h⟩)
    · rw [scrapeWith_of_unavailable he]
    · rw [scrapeWith_of_available ha]
      exact h

/-- Any other error than that of a computed field comes from a page that is not there. -/
theorem scrapeWith_error_iff_unavailable {S : Schema σ} {o : Options} {s : σ}
    (he : ∀ key source, e ≠ .computed key source) :
    ((scrapeWith c url S o).run s).result = .error e ↔ Unavailable c url e := by
  rw [scrapeWith_error_iff]
  refine ⟨?_, .inl⟩
  rintro (h | ⟨r, text, -, h⟩)
  · exact h
  · -- The page is there, so the error is that of a call.
    obtain ⟨k, -, source, hk⟩ := Schema.error_extractIn h
    exact absurd hk (he k.key source)

/-! ## Headline property -/

/-- **Stages.** A scrape ends with a request error exactly if the client has no final response, or
has one that is a success and whose body cannot be read; the error is the client's. It ends with a
status error exactly if the final response is no success, and then with the address as it was given
and the status of that response. If there is a text, the scrape does what the extraction from it
does, so that only a computed field can fail; before the events of the extraction there are the
announcement and one event that the page was fetched. If there is no text, the state is as it was,
nothing but the announcement is reported, and no computed field is called. -/
theorem scrapeWith_stages (c : Client) (url : String) (S : Schema σ) (o : Options) (s : σ) :
    (∀ e, ((scrapeWith c url S o).run s).result = .error (.request e) ↔
      c.get url = .error e ∨ ∃ r, c.get url = .ok r ∧ r.Success ∧ r.text = .error e) ∧
    (∀ u status, ((scrapeWith c url S o).run s).result = .error (.status u status) ↔
      u = url ∧ ∃ r, c.get url = .ok r ∧ ¬ r.Success ∧ status = r.status) ∧
    (∀ e, ((scrapeWith c url S o).run s).result ≠ .error (.schema e)) ∧
    (∀ r text, c.get url = .ok r → r.Success → r.text = .ok text →
      (scrapeWith c url S o).run s =
        ⟨((S.extract (.parse text)).run s).result, ((S.extract (.parse text)).run s).state,
          announcement url o ++ .fetched url r.status text.utf8ByteSize ::
            ((S.extract (.parse text)).run s).events⟩ ∧
      ∀ e, ((scrapeWith c url S o).run s).result = .error e →
        ∃ key source, e = .computed key source) ∧
    ((¬ ∃ r text, c.get url = .ok r ∧ r.Success ∧ r.text = .ok text) →
      ((scrapeWith c url S o).run s).state = s ∧
      ((scrapeWith c url S o).run s).events = announcement url o ∧
      ((scrapeWith c url S.recording o).run (s, [])).state = (s, [])) := by
  refine ⟨fun e => ?_, fun u status => ?_, fun e h => ?_, fun r text hr hs ht => ?_, fun hn => ?_⟩
  · rw [scrapeWith_error_iff_unavailable (by simp), unavailable_request_iff]
  · rw [scrapeWith_error_iff_unavailable (by simp), unavailable_status_iff]
  · exact not_unavailable_schema ((scrapeWith_error_iff_unavailable (by simp)).1 h)
  · have hrun := scrapeWith_of_available ⟨hr, hs, ht⟩ S o s
    refine ⟨hrun, fun e he => ?_⟩
    rw [hrun] at he
    obtain ⟨k, -, source, hk⟩ := Schema.error_extractIn he
    exact ⟨k.key, source, hk⟩
  · rcases available_or_unavailable c url with ⟨r, text, ha⟩ | ⟨e, he⟩
    · exact absurd ⟨r, text, ha.obtains, ha.success, ha.text⟩ hn
    · rw [scrapeWith_of_unavailable he, scrapeWith_of_unavailable he]
      exact ⟨rfl, rfl, rfl⟩

/-! ## A shop -/

def shopPage : Response := ⟨200, .ok "<h1>Hello</h1>"⟩

/-- A page that has moved, one that has moved to where nothing is, an address that leads on to
itself, and a page of which only a part arrives. -/
def shopNetwork : Network := fun url =>
  if url = "http://shop.test/old" then .redirection "http://shop.test/shop"
  else if url = "http://shop.test/shop" then .response shopPage
  else if url = "http://shop.test/sold" then .redirection "http://shop.test/nothing"
  else if url = "http://shop.test/again" then .redirection "http://shop.test/again"
  else if url = "http://shop.test/cut" then
    .response ⟨200, .error ⟨"error decoding response body"⟩⟩
  else .response ⟨404, .ok ""⟩

def shop : Client := .following 10 shopNetwork

/-- A heading, and how often this field has been asked for. -/
def countedHeading : Schema Nat :=
  (Schema.empty.field "title" (.selector "h1")).computed "n" fun _ _ => do
    let n ← Run.get
    Run.set (n + 1)
    return .nat n

theorem get_old : shop.get "http://shop.test/old" = .ok shopPage :=
  follow_eq_ok_iff.2 ⟨1, by decide, .redirection rfl (.response rfl)⟩

theorem success_shopPage : shopPage.Success := ⟨by decide, by decide⟩

/-- Nobody gets a page from the address that leads on to itself. -/
theorem get_again (limit : Nat) (r : Response) :
    (Client.following limit shopNetwork).get "http://shop.test/again" ≠ .ok r := by
  intro h
  obtain ⟨n, -, hend⟩ := follow_eq_ok_iff.1 h
  exact EndsIn.of_redirection_self (by rfl) hend

theorem get_offline : Client.offline.get "http://shop.test/" =
    .error ⟨"error sending request for url (http://shop.test/)"⟩ := by
  have h : refusal "http://shop.test/" = "error sending request for url (http://shop.test/)" := by
    decide +kernel
  rw [← h]
  rfl

theorem scrapeWith_stages_shop :
    (shop.get "http://shop.test/old" = .ok shopPage ∧ shopPage.Success ∧
      ((scrapeWith shop "http://shop.test/old" countedHeading ⟨true⟩).run 7).events =
        announcement "http://shop.test/old" ⟨true⟩ ++ .fetched "http://shop.test/old" 200 14 ::
          ((countedHeading.extract (.parse "<h1>Hello</h1>")).run 7).events ∧
      ∀ e, ((scrapeWith shop "http://shop.test/old" countedHeading ⟨true⟩).run 7).result =
        .error e → ∃ key source, e = .computed key source) ∧
    ((scrapeWith shop "http://shop.test/sold" countedHeading ⟨true⟩).run 7).result =
      .error (.status "http://shop.test/sold" 404) ∧
    ((scrapeWith shop "http://shop.test/cut" countedHeading ⟨true⟩).run 7).result =
      .error (.request ⟨"error decoding response body"⟩) ∧
    ((scrapeWith .offline "http://shop.test/" countedHeading ⟨true⟩).run 7).result =
      .error (.request ⟨"error sending request for url (http://shop.test/)"⟩) ∧
    (¬ ∃ r text, shop.get "http://shop.test/again" = .ok r ∧ r.Success ∧ r.text = .ok text) ∧
    ((scrapeWith shop "http://shop.test/again" countedHeading ⟨true⟩).run 7).state = 7 ∧
    ((scrapeWith shop "http://shop.test/again" countedHeading ⟨true⟩).run 7).events =
      [.scrape "http://shop.test/again", .scriptsIgnored, .fetching "http://shop.test/again"] := by
  have hn : ¬ ∃ r text, shop.get "http://shop.test/again" = .ok r ∧ r.Success ∧ r.text = .ok text :=
    fun ⟨r, _, hr, _⟩ => get_again 10 r hr
  obtain ⟨-, -, -, hpage, -⟩ :=
    scrapeWith_stages shop "http://shop.test/old" countedHeading ⟨true⟩ 7
  obtain ⟨-, -, -, -, hnone⟩ :=
    scrapeWith_stages shop "http://shop.test/again" countedHeading ⟨true⟩ 7
  obtain ⟨hrun, herror⟩ := hpage shopPage _ get_old success_shopPage rfl
  have hsize : "<h1>Hello</h1>".utf8ByteSize = 14 := by decide
  refine ⟨⟨get_old, success_shopPage, ?_, herror⟩, ?_, ?_, ?_, hn, (hnone hn).1, ?_⟩
  · rw [hrun, hsize, show shopPage.status = 200 from rfl]
  · refine ((scrapeWith_stages shop _ countedHeading ⟨true⟩ 7).2.1 _ _).2
      ⟨rfl, ⟨404, .ok ""⟩, ?_, ?_⟩
    · exact follow_eq_ok_iff.2 ⟨1, by decide, .redirection rfl (.response rfl)⟩
    · simp [Response.Success]
  · refine ((scrapeWith_stages shop _ countedHeading ⟨true⟩ 7).1 _).2
      (.inr ⟨⟨200, .error _⟩, ?_, ⟨by decide, by decide⟩, rfl⟩)
    exact follow_eq_ok_iff.2 ⟨0, by decide, .response rfl⟩
  · refine ((scrapeWith_stages .offline _ countedHeading ⟨true⟩ 7).1 _).2 (.inl get_offline)
  · rw [(hnone hn).2.1]
    rfl

end WebExtract
