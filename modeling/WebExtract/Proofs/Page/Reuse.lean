import WebExtract.Proofs.Extract.Results
import WebExtract.Proofs.Page.Scrape

/-!
# One page for several schemas

A schema can be applied to an address by loading the page with a client and extracting, by a scrape
with the same client, or by a scrape with the usual one. A page that was loaded once stands for the
scrapes with its client: extracting from it again and again, with the state of the computed fields
handed on, comes to what scraping the address each time comes to. It stands for the scrapes with the
usual client as well if that client loads the same page, which is the case if the two get the same
response. Nothing that an extraction does, and none of the options, can be seen in the page; they
show in the events only.

A `Way` is one of the three; `Way.read` is what is done.

**Results.**
* `scrapeWith_agrees_extract`, `scrapeWith_agrees_fail`: what a scrape comes to, with the page and
  without.
* `Way.agrees`: each way to read a schema comes to the same as extracting from the page.
* `load_reuse`: so they can be mixed in any way, and if computed fields depend on the document and
  the context alone, each schema has one answer, wherever it stands.
* `scrape_differs_from_load`: two clients for one network that follow redirections up to different
  limits load different pages, or one of them none, so what is said of the usual client needs its
  condition.
-/
namespace WebExtract

open Http

variable {σ τ : Type} {c usual : Client} {url text : String} {r : Response} {e : ScrapeError}
  {S : Schema σ} {p : Page} {t : τ}

/-! ## Scrapes -/

theorem scrapeWith_agrees_extract (hp : ((Page.load c url).run t).result = .ok p)
    (S : Schema σ) (o : Options) : (scrapeWith c url S o).Agrees (p.extract S) := by
  obtain ⟨r, text, ha, rfl⟩ := load_eq_ok_iff.1 hp
  intro s
  rw [scrapeWith_of_available ha]
  exact ⟨rfl, rfl⟩

theorem scrapeWith_agrees_fail (he : ((Page.load c url).run t).result = .error e)
    (S : Schema σ) (o : Options) : (scrapeWith c url S o).Agrees (Run.fail e) := by
  intro s
  rw [scrapeWith_of_unavailable (load_eq_error_iff.1 he)]
  exact ⟨rfl, rfl⟩

/-- The options make no difference. -/
theorem scrapeWith_agrees_scrapeWith (c : Client) (url : String) (S : Schema σ) (o o' : Options) :
    (scrapeWith c url S o).Agrees (scrapeWith c url S o') := by
  cases h : ((Page.load c url).run ()).result with
  | ok p => exact (scrapeWith_agrees_extract h S o).trans (scrapeWith_agrees_extract h S o').symm
  | error e => exact (scrapeWith_agrees_fail h S o).trans (scrapeWith_agrees_fail h S o').symm

/-! ## Ways to read a schema -/

inductive Way
  | extract
  | scrapeWith (o : Options)
  | scrape (o : Options)

/-- Reads a schema: from the page `p`, or from the address with the client `c` or with the usual
one. -/
def Way.read (c usual : Client) (url : String) (p : Page) (S : Schema σ) :
    Way → Run σ ScrapeError Json
  | extract => p.extract S
  | scrapeWith o => WebExtract.scrapeWith c url S o
  | scrape o => WebExtract.scrape usual url S o

theorem Way.agrees {w : Way} (hp : ((Page.load c url).run t).result = .ok p)
    (hu : (∃ o, w = .scrape o) → ((Page.load usual url).run t).result = .ok p) :
    (w.read c usual url p S).Agrees (p.extract S) := by
  cases w with
  | extract => exact .refl _
  | scrapeWith o => exact scrapeWith_agrees_extract hp S o
  | scrape o => exact scrapeWith_agrees_extract (hu ⟨o, rfl⟩) S o

/-- A page has one answer to a schema whose computed fields depend on the document and the context
alone. -/
theorem Page.always_extract (p : Page) (hS : S.Steady) (s : σ) :
    (p.extract S).Always ((p.extract S).run s).result :=
  (Schema.steady_extractIn hS p.document .document).always rfl

/-! ## Headline property -/

/-- **Reuse.** A page that was loaded has the location of the address as it was given. Extracting
several schemas from it in turn, or scraping the address for some or all of them instead, with the
same client and any options, comes to the same results and the same states throughout; with the
usual client too, provided that this one loads the same page. If the computed fields depend on the
document and the context alone, there is one answer to each schema, whatever is read before it, how
often, and from which state. If the page cannot be loaded, each scrape with the same client fails
with the error of loading it and leaves the state, and so does each scrape with the usual client,
provided that this one cannot load it for the same reason. In any case, options change no result. -/
theorem load_reuse (c usual : Client) (url : String) :
    (∀ (t : τ) (p : Page), ((Page.load c url).run t).result = .ok p →
      p.location = .of url ∧
      ∀ jobs : List (Schema σ × Way),
        ((∃ job ∈ jobs, ∃ o, job.2 = .scrape o) →
          ((Page.load usual url).run t).result = .ok p) →
        (∀ s, List.Forall₂ Run.Same
          (Run.inTurn (jobs.map fun job => job.2.read c usual url p job.1) s)
          (Run.inTurn (jobs.map fun job => p.extract job.1) s)) ∧
        ((∀ job ∈ jobs, job.1.Steady) → ∀ s s',
          (Run.inTurn (jobs.map fun job => job.2.read c usual url p job.1) s).map
              Outcome.result =
            jobs.map fun job => ((p.extract job.1).run s').result)) ∧
    (∀ (t : τ) e, ((Page.load c url).run t).result = .error e → ∀ (S : Schema σ) o s,
      (((scrapeWith c url S o).run s).result = .error e ∧
        ((scrapeWith c url S o).run s).state = s) ∧
      (((Page.load usual url).run t).result = .error e →
        ((scrape usual url S o).run s).result = .error e ∧
          ((scrape usual url S o).run s).state = s)) ∧
    (∀ (S : Schema σ) o o', (scrapeWith c url S o).Agrees (scrapeWith c url S o') ∧
      (scrape usual url S o).Agrees (scrape usual url S o')) := by
  refine ⟨fun t p hp => ⟨?_, fun jobs hu => ?_⟩, fun t e he S o s => ?_, fun S o o' => ?_⟩
  · obtain ⟨r, text, -, rfl⟩ := load_eq_ok_iff.1 hp
    rfl
  · have hread : ∀ job ∈ jobs,
        (job.2.read c usual url p job.1).Agrees (p.extract job.1) := fun job hjob =>
      Way.agrees hp fun ⟨o, ho⟩ => hu ⟨job, hjob, o, ho⟩
    refine ⟨fun s => Run.forall₂_inTurn ?_ s, fun hS s s' => Run.result_inTurn ?_ s⟩
    · rw [List.forall₂_map_left_iff, List.forall₂_map_right_iff, List.forall₂_same]
      exact hread
    · rw [List.forall₂_map_left_iff, List.forall₂_map_right_iff, List.forall₂_same]
      exact fun job hjob => (hread job hjob).always (p.always_extract (hS job hjob) s')
  · exact ⟨scrapeWith_agrees_fail he S o s, fun hu => scrapeWith_agrees_fail hu S o s⟩
  · exact ⟨scrapeWith_agrees_scrapeWith c url S o o', scrapeWith_agrees_scrapeWith usual url S o o'⟩

def shopFront : Page := ⟨.of "http://shop.test/old", .parse "<h1>Hello</h1>"⟩

def heading : Schema Nat := Schema.empty.field "title" (.selector "h1")

def unpriced : Schema Nat :=
  Schema.empty.computed "price" fun _ _ => Run.fail (.message "no price")

theorem steady_heading : heading.Steady := ⟨trivial, trivial, trivial⟩

theorem steady_unpriced : unpriced.Steady := ⟨trivial, fun _ _ _ _ => rfl, trivial⟩

/-- One redirection is followed by each client that follows any. -/
theorem load_old (limit : Nat) :
    ((Page.load (.following (limit + 1) shopNetwork) "http://shop.test/old").run ()).result =
      .ok shopFront :=
  load_eq_ok_iff.2 ⟨shopPage, _, ⟨follow_eq_ok_iff.2
    ⟨1, Nat.le_add_left 1 limit, .redirection rfl (.response rfl)⟩, success_shopPage, rfl⟩, rfl⟩

theorem load_reuse_shop :
    (((Page.load (.following 1 shopNetwork) "http://shop.test/old").run ()).result =
        .ok shopFront ∧
      ((Page.load shop "http://shop.test/old").run ()).result = .ok shopFront ∧
      shopFront.location.path = some "/old" ∧
      (∀ s, List.Forall₂ Run.Same
        (Run.inTurn [shopFront.extract countedHeading,
          scrape shop "http://shop.test/old" unpriced ⟨true⟩,
          scrapeWith (.following 1 shopNetwork) "http://shop.test/old" countedHeading ⟨false⟩] s)
        (Run.inTurn [shopFront.extract countedHeading, shopFront.extract unpriced,
          shopFront.extract countedHeading] s)) ∧
      ∀ s s', (Run.inTurn [scrape shop "http://shop.test/old" heading ⟨true⟩,
          shopFront.extract unpriced, shopFront.extract heading] s).map Outcome.result =
        [((shopFront.extract heading).run s').result,
          ((shopFront.extract unpriced).run s').result,
          ((shopFront.extract heading).run s').result]) ∧
    ((∃ e, ((Page.load shop "http://shop.test/cut").run ()).result = .error e) ∧
      ∀ e, ((Page.load shop "http://shop.test/cut").run ()).result = .error e →
        ∀ s, ((scrape shop "http://shop.test/cut" countedHeading ⟨true⟩).run s).result =
          .error e) := by
  have hcut : Unavailable shop "http://shop.test/cut"
      (.request ⟨"error decoding response body"⟩) :=
    .noText (r := ⟨200, .error _⟩) (follow_eq_ok_iff.2 ⟨0, by decide, .response rfl⟩)
      ⟨by decide, by decide⟩ rfl
  obtain ⟨hlocation, hjobs⟩ := (load_reuse (σ := Nat) (.following 1 shopNetwork) shop
    "http://shop.test/old").1 () shopFront (load_old 0)
  refine ⟨⟨load_old 0, load_old 9, ?_, fun s => ?_, fun s s' => ?_⟩,
    ⟨_, load_eq_error_iff.2 hcut⟩, fun e he s => ?_⟩
  · rw [hlocation]
    decide +kernel
  · exact (hjobs [(countedHeading, .extract), (unpriced, .scrape ⟨true⟩),
      (countedHeading, .scrapeWith ⟨false⟩)] fun _ => load_old 9).1 s
  · exact (hjobs [(heading, .scrape ⟨true⟩), (unpriced, .extract), (heading, .extract)]
      fun _ => load_old 9).2 (by simp [steady_heading, steady_unpriced]) s s'
  · exact (((load_reuse (σ := Nat) shop shop "http://shop.test/cut").2.1 () e he countedHeading
      ⟨true⟩ s).2 he).1

/-! ## The usual client -/

/-- Twelve addresses, of which each but the last leads on to the next. -/
def stairs : List String :=
  ["http://shop.test/", "http://shop.test/1", "http://shop.test/2", "http://shop.test/3",
   "http://shop.test/4", "http://shop.test/5", "http://shop.test/6", "http://shop.test/7",
   "http://shop.test/8", "http://shop.test/9", "http://shop.test/10", "http://shop.test/11"]

def stairsNetwork : Network := fun url =>
  match (stairs.dropWhile (· ≠ url)).tail with
  | next :: _ => .redirection next
  | [] => .response shopPage

theorem endsIn_stairs : EndsIn stairsNetwork 11 "http://shop.test/" shopPage := by
  iterate 11 refine .redirection rfl ?_
  exact .response rfl

def stairsTop : Page := ⟨.of "http://shop.test/", .parse "<h1>Hello</h1>"⟩

/-- The usual client follows ten redirections. One that follows eleven may load a page where a
scrape with the usual client fails, and one that follows none may not load a page where such a
scrape finds it. -/
theorem scrape_differs_from_load :
    (((Page.load (.following 11 stairsNetwork) "http://shop.test/").run ()).result =
        .ok stairsTop ∧
      ((scrape (.following 10 stairsNetwork) "http://shop.test/" heading ⟨false⟩).run 0).result ≠
        ((stairsTop.extract heading).run 0).result) ∧
    (((Page.load (.following 0 shopNetwork) "http://shop.test/old").run ()).result =
        .error (.request ⟨"error following redirect for url (http://shop.test/old)"⟩) ∧
      ((scrape (.following 10 shopNetwork) "http://shop.test/old" heading ⟨false⟩).run 0).result =
        ((shopFront.extract heading).run 0).result ∧
      ((shopFront.extract heading).run 0).result ≠
        .error (.request ⟨"error following redirect for url (http://shop.test/old)"⟩)) := by
  have hrequest : ∀ (p : Page) (e : RequestError),
      ((p.extract heading).run 0).result ≠ .error (.request e) := by
    intro p e h
    obtain ⟨k, -, source, hk⟩ := Schema.error_extractIn h
    cases hk
  refine ⟨⟨load_eq_ok_iff.2 ⟨shopPage, _, ⟨follow_eq_ok_iff.2 ⟨11, Nat.le_refl _, endsIn_stairs⟩,
    success_shopPage, rfl⟩, rfl⟩, fun h => ?_⟩, load_eq_error_iff.2 (.noResponse rfl),
    (scrapeWith_agrees_extract (load_old 9) heading ⟨false⟩ 0).1, hrequest shopFront _⟩
  -- Had the client a response, it would have come after eleven redirections.
  cases hget : (Client.following 10 stairsNetwork).get "http://shop.test/" with
  | ok r =>
    obtain ⟨n, hn, hend⟩ := follow_eq_ok_iff.1 hget
    obtain ⟨rfl, -⟩ := hend.unique endsIn_stairs
    omega
  | error e =>
    have hfails : ((Page.load (.following 10 stairsNetwork) "http://shop.test/").run ()).result =
        .error (.request e) := load_eq_error_iff.2 (.noResponse hget)
    refine hrequest stairsTop e ?_
    rw [← h]
    exact (scrapeWith_agrees_fail hfails heading ⟨false⟩ 0).1

end WebExtract
