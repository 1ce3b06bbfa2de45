import Routing.Proofs.Candidates
import Routing.Proofs.Generation
import Routing.Proofs.QueryDecoding

/-! URLs that are generated: the path of the route, with the pairs that are no parameters of it as a
query from which they can be read again. -/
namespace Routing

open Text

namespace Router

theorem assemble_short_nil (path : String) : assemble true path [] = path := rfl

/-- The query that a path is followed by. -/
theorem assemble_short (path : String) {extras : List (String × String)} (h : extras ≠ []) :
    assemble true path extras =
      path ++ (if '?' ∈ path.toList then "&" else "?") ++ encodeQuery extras := by
  have hempty : extras.isEmpty = false := by simpa using h
  simp [assemble, hempty]

theorem assemble_long (path : String) (extras : List (String × String)) :
    assemble false path extras = "?" ++ encodeQuery (("path", path) :: extras) := rfl

/-- Behind the same path, other extras make another URL. -/
theorem assemble_inj {short : Bool} {path : String} {extras others : List (String × String)}
    (h : assemble short path extras = assemble short path others) : extras = others := by
  have hquery {pairs pairs' : List (String × String)} (hne : pairs ≠ []) (hne' : pairs' ≠ [])
      (he : encodeQuery pairs = encodeQuery pairs') : pairs = pairs' := by
    have hdecoded := decodeQuery?_encodeQuery hne
    rw [he, decodeQuery?_encodeQuery hne'] at hdecoded
    exact (Option.some.inj hdecoded).symm
  have hlonger {pairs : List (String × String)} (hne : pairs ≠ []) :
      assemble true path pairs ≠ path := by
    rw [assemble_short path hne, String.append_assoc]
    intro he
    have hlength := congrArg String.length he
    simp only [String.length_append] at hlength
    split_ifs at hlength
    all_goals
      simp at hlength
  cases short with
  | false =>
    rw [assemble_long, assemble_long, String.append_right_inj] at h
    have hpairs := hquery (List.cons_ne_nil _ _) (List.cons_ne_nil _ _) h
    exact (List.cons_eq_cons.mp hpairs).2
  | true =>
    by_cases hne : extras = []
    · by_cases hne' : others = []
      · rw [hne, hne']
      · rw [hne, assemble_short_nil] at h
        exact absurd h.symm (hlonger hne')
    · by_cases hne' : others = []
      · rw [hne', assemble_short_nil] at h
        exact absurd h (hlonger hne)
      · rw [assemble_short path hne, assemble_short path hne', String.append_right_inj] at h
        exact hquery hne hne' h

end Router

/-- What is generated shows its path and all extras: without extras, a short URL is the path; otherwise
the query behind the path gives the extras back. The query of a long URL gives the path and the extras
back. So URLs of the same path are the same exactly if their extras are. -/
theorem generate_query {r : Router} (hr : r.Reachable) {name : String} {route : Route}
    (hget : r.getRoute name = .ok route) {short : Bool} {pairs : List (String × String)} {url : String}
    (h : r.generate short name pairs = .ok url) :
    (short = true → route.extras pairs = [] → url = route.filled pairs) ∧
    (short = true → route.extras pairs ≠ [] →
      ∃ query, url = route.filled pairs ++ (if '?' ∈ (route.filled pairs).toList then "&" else "?") ++ query ∧
        decodeQuery? query = some (route.extras pairs)) ∧
    (short = false → ∃ query, url = "?" ++ query ∧
      decodeQuery? query = some (("path", route.filled pairs) :: route.extras pairs)) ∧
    ∀ (pairs' : List (String × String)) (url' : String), r.generate short name pairs' = .ok url' →
      route.filled pairs' = route.filled pairs →
        (url' = url ↔ route.extras pairs' = route.extras pairs) := by
  have hroute := ((Router.consistent_of_reachable hr).getRoute_eq_ok.mp hget).1
  have hwell := hr.wellFormed route hroute
  have hurl {pairs : List (String × String)} {url : String}
      (h : r.generate short name pairs = .ok url) :
      url = Router.assemble short (route.filled pairs) (route.extras pairs) := by
    rw [Router.generate_eq hget hwell] at h
    split_ifs at h
    exact (Except.ok.inj h).symm
  obtain rfl := hurl h
  refine ⟨?_, ?_, ?_, fun pairs' url' h' hpath => ?_⟩
  · rintro rfl hnone
    rw [hnone, Router.assemble_short_nil]
  · rintro rfl hsome
    exact ⟨_, Router.assemble_short _ hsome, decodeQuery?_encodeQuery hsome⟩
  · rintro rfl
    exact ⟨_, Router.assemble_long _ _, decodeQuery?_encodeQuery (List.cons_ne_nil _ _)⟩
  · obtain rfl := hurl h'
    rw [hpath]
    constructor
    · exact Router.assemble_inj
    · exact fun he => he ▸ rfl

/-- Separators in a key and in a value, and a key that is given twice. -/
theorem generate_query_search :
    let r := Router.afterAll {} [.add "/search/\x7bkind\x7d" .get (some "search")]
    let pairs := [("q&", "a"), ("kind", "all"), ("", "?"), ("q&", "1 = 100% é")]
    ∃ query, r.generate true "search" pairs = .ok ("/search/all?" ++ query) ∧
      decodeQuery? query = some [("q&", "1 = 100% é"), ("", "?")] := by
  intro r pairs
  have hroute : (r.getRoute "search").toOption.map (fun route =>
      (route.filled pairs, route.extras pairs)) =
        some ("/search/all", [("q&", "1 = 100% é"), ("", "?")]) := by
    decide +kernel
  obtain ⟨route, hget, hfacts⟩ := Option.map_eq_some_iff.mp hroute
  obtain ⟨hpath, hextras⟩ := Prod.mk.inj hfacts
  have hsome : ((r.generate true "search" pairs).toOption).isSome = true := by decide +kernel
  obtain ⟨url, hurl⟩ := Option.isSome_iff_exists.mp hsome
  have hshort := (generate_query (Router.reachable_afterAll _ _) (ok_of_toOption hget)
    (ok_of_toOption hurl)).2.1
  rw [hpath, hextras] at hshort
  obtain ⟨query, rfl, hdecoded⟩ := hshort rfl (List.cons_ne_nil _ _)
  exact ⟨query, ok_of_toOption hurl, hdecoded⟩

end Routing
