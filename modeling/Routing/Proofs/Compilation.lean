import Routing.Proofs.GroupCount
import Routing.Proofs.TableLookup

/-! What compiles: patterns that are valid by themselves are enough for a template, for a change of one of
them and for a matcher, exactly as long as no two groups in them have the same name. -/
namespace Routing

open Pattern

namespace Route

section Parse

variable {defaultPattern template : String} {method : Option MethodMask}

theorem Sound.spliceable (h : Sound (fragments defaultPattern template))
    (hquiet : ∀ p ∈ fragments defaultPattern template, Quiet p.2) :
    Spliceable ((Piece.ofTemplate template).map segment) (fragments defaultPattern template) :=
  ⟨(map_fst_fragments defaultPattern _).symm, h, h.encloses hquiet⟩

theorem exists_parse_iff (hquiet : ∀ p ∈ fragments defaultPattern template, Quiet p.2) :
    (∃ r, parse defaultPattern template method = .ok r) ↔
      Sound (fragments defaultPattern template) ∧
        (groupNames (fragments defaultPattern template)).Nodup := by
  constructor
  · rintro ⟨r, hr⟩
    obtain ⟨hsound, regex, hregex, -⟩ := parse_eq_ok.mp hr
    exact ⟨hsound, (hsound.spliceable hquiet).exists_regex_iff.mp ⟨regex, hregex⟩⟩
  · rintro ⟨hsound, hnodup⟩
    obtain ⟨regex, hregex⟩ := (hsound.spliceable hquiet).exists_regex_iff.mpr hnodup
    exact ⟨_, parse_eq_ok.mpr ⟨hsound, regex, hregex, rfl⟩⟩

/-- Without a fault in a fragment, only a name that comes twice keeps the whole from compiling. -/
theorem parse_eq_error_of_quiet (hquiet : ∀ p ∈ fragments defaultPattern template, Quiet p.2)
    {e : Error} :
    parse defaultPattern template method = .error e ↔
      (∃ good bad rest, fragments defaultPattern template = good ++ bad :: rest ∧ Sound good ∧
        check template good bad = .error e) ∨
      Sound (fragments defaultPattern template) ∧
        ¬(groupNames (fragments defaultPattern template)).Nodup ∧
        e = .invalidPattern ("^" ++ spliced ((Piece.ofTemplate template).map segment)
          (fragments defaultPattern template) ++ "$") := by
  rw [parse_eq_error]
  refine or_congr_right (and_congr_right fun hsound => ?_)
  exact (hsound.spliceable hquiet).compileRegex_eq_error

end Parse

section Specify

variable {r : Route} {name pattern : String}

theorem WellFormed.spliceable_respecified (hr : r.WellFormed)
    (hquiet : ∀ p ∈ r.patterns, Quiet p.2) (hvalid : validatePattern name pattern = .ok ())
    (hpattern : Quiet pattern) : Spliceable r.segments (respecified r.patterns name pattern) := by
  have hsound := hr.sound.respecified hvalid
  refine ⟨?_, hsound, hsound.encloses fun p hp => ?_⟩
  · rw [hr.names, respecified_names]
    rfl
  · rcases of_mem_respecified hp with rfl | hp
    · exact hpattern
    · exact hquiet p hp

theorem exists_specify_iff (hr : r.WellFormed) (hquiet : ∀ p ∈ r.patterns, Quiet p.2)
    (hpattern : Quiet pattern) :
    (∃ r', r.specify name pattern = .ok r') ↔
      name ∉ r.parameterNames ∨
      validatePattern name pattern = .ok () ∧
        (groupNames (respecified r.patterns name pattern)).Nodup := by
  have hsplice (hvalid : validatePattern name pattern = .ok ()) :=
    hr.spliceable_respecified hquiet hvalid hpattern
  constructor
  · rintro ⟨r', hspecify⟩
    rcases specify_eq_ok.mp hspecify with ⟨hname, -⟩ | ⟨-, hvalid, regex, hregex, -⟩
    · exact .inl hname
    · exact .inr ⟨hvalid, (hsplice hvalid).exists_regex_iff.mp ⟨regex, hregex⟩⟩
  · intro h
    by_cases hname : name ∈ r.parameterNames
    · obtain ⟨hvalid, hnodup⟩ := h.resolve_left (not_not_intro hname)
      obtain ⟨regex, hregex⟩ := (hsplice hvalid).exists_regex_iff.mpr hnodup
      exact ⟨_, specify_eq_ok.mpr (.inr ⟨hname, hvalid, regex, hregex, rfl⟩)⟩
    · exact ⟨r, specify_eq_ok.mpr (.inl ⟨hname, rfl⟩)⟩

theorem specify_eq_error_of_quiet (hr : r.WellFormed) (hquiet : ∀ p ∈ r.patterns, Quiet p.2)
    (hpattern : Quiet pattern) {e : Error} :
    r.specify name pattern = .error e ↔
      name ∈ r.parameterNames ∧ (validatePattern name pattern = .error e ∨
        validatePattern name pattern = .ok () ∧
          ¬(groupNames (respecified r.patterns name pattern)).Nodup ∧
          e = .invalidPattern
            ("^" ++ spliced r.segments (respecified r.patterns name pattern) ++ "$")) := by
  rw [specify_eq_error]
  refine and_congr_right fun _ => or_congr_right (and_congr_right fun hvalid => ?_)
  exact (hr.spliceable_respecified hquiet hvalid hpattern).compileRegex_eq_error

end Specify

end Route

/-- Patterns that are valid by themselves and skip no blanks and comments are enough, unless two groups in
them have the same name. A template fails with the first fault in its fragments, and a change with that of
the new pattern; only without a fault the whole is at fault, for a name that comes twice in the template,
in the route or in a chunk of the matcher. Patterns without groups have no names. -/
theorem compiles_iff_groupNames_nodup (defaultPattern template : String)
    (method : Option MethodMask) (route : Route) (name pattern : String) (router : Router) :
    ((∀ p ∈ Route.fragments defaultPattern template, Quiet p.2) →
      ((∃ r, Route.parse defaultPattern template method = .ok r) ↔
        Route.Sound (Route.fragments defaultPattern template) ∧
          (Route.groupNames (Route.fragments defaultPattern template)).Nodup) ∧
      ∀ e, Route.parse defaultPattern template method = .error e ↔
        (∃ good bad rest, Route.fragments defaultPattern template = good ++ bad :: rest ∧
          Route.Sound good ∧ Route.check template good bad = .error e) ∨
        Route.Sound (Route.fragments defaultPattern template) ∧
          ¬(Route.groupNames (Route.fragments defaultPattern template)).Nodup ∧
          e = .invalidPattern ("^" ++ Route.spliced ((Piece.ofTemplate template).map Route.segment)
            (Route.fragments defaultPattern template) ++ "$")) ∧
    (route.Accepted → (∀ p ∈ route.patterns, Quiet p.2) → Quiet pattern →
      ((∃ r, route.specify name pattern = .ok r) ↔
        name ∉ route.parameterNames ∨
        Route.validatePattern name pattern = .ok () ∧
          (Route.groupNames (Route.respecified route.patterns name pattern)).Nodup) ∧
      ∀ e, route.specify name pattern = .error e ↔
        name ∈ route.parameterNames ∧ (Route.validatePattern name pattern = .error e ∨
          Route.validatePattern name pattern = .ok () ∧
            ¬(Route.groupNames (Route.respecified route.patterns name pattern)).Nodup ∧
            e = .invalidPattern ("^" ++ Route.spliced route.segments
              (Route.respecified route.patterns name pattern) ++ "$"))) ∧
    (router.Reachable → router.Quiet →
      ((∃ m, Matcher.ofRouter router = .ok m) ↔
        ∀ table ∈ Router.tables, ∀ piece ∈ router.pieces table, (Chunk.groupNames piece).Nodup) ∧
      ∀ e, Matcher.ofRouter router = .error e →
        ∃ table ∈ Router.tables, ∃ piece ∈ router.pieces table,
          ¬(Chunk.groupNames piece).Nodup ∧ e = .invalidPattern (Chunk.combined piece)) ∧
    (Route.validatePattern name pattern = .ok () → (own pattern).slots = 0 →
      Pattern.groupNames pattern = []) := by
  refine ⟨fun hquiet => ?_, fun hroute hquiet hpattern => ?_, fun hrouter hquiet => ?_,
    fun hvalid hslots => ?_⟩
  · exact ⟨Route.exists_parse_iff hquiet, fun e => Route.parse_eq_error_of_quiet hquiet⟩
  · exact ⟨Route.exists_specify_iff hroute.wellFormed hquiet hpattern,
      fun e => Route.specify_eq_error_of_quiet hroute.wellFormed hquiet hpattern⟩
  · exact ⟨Matcher.exists_ofRouter_iff hrouter hquiet,
      fun e => Matcher.ofRouter_eq_error hrouter hquiet⟩
  · obtain ⟨p, hp, -⟩ := Route.validatePattern_ok hvalid
    exact Pattern.groupNames_eq_nil hp hslots

/-- Two patterns with a group each, of different names. -/
theorem compiles_iff_groupNames_nodup_pair :
    let template := "/\x7bp:(?P<n>x)\x7b0\x7db\x7d/\x7bq\x7d"
    let r := Router.afterAll {} [.add "/a/\x7bp:(?P<n>x)\x7b0\x7db\x7d" .any (some "a"),
      .add "/b/\x7bq:(?P<m>y)\x7b0\x7dc\x7d" .any (some "b")]
    (∀ p ∈ Route.fragments "[^/]+" template, Quiet p.2) ∧
      (∃ route, Route.parse "[^/]+" template none = .ok route ∧
        Route.Sound (Route.fragments "[^/]+" template) ∧
        ∃ route', route.specify "q" "(?P<m>y)\x7b0\x7dc" = .ok route') ∧
      r.Reachable ∧ r.Quiet ∧ ∃ m, Matcher.ofRouter r = .ok m := by
  intro template r
  obtain ⟨hquiet, hpattern, hparse, hvalid, hnames⟩ :
      (∀ p ∈ Route.fragments "[^/]+" template, Quiet p.2) ∧ Quiet "(?P<m>y)\x7b0\x7dc" ∧
      (Route.parse "[^/]+" template none).toOption.map Route.patterns =
        some (Route.fragments "[^/]+" template) ∧
      (Route.validatePattern "q" "(?P<m>y)\x7b0\x7dc").toOption = some () ∧
      (Route.groupNames (Route.respecified (Route.fragments "[^/]+" template) "q"
        "(?P<m>y)\x7b0\x7dc")).Nodup := by decide +kernel
  obtain ⟨hrouter, hnodup⟩ : r.Quiet ∧ ∀ table ∈ Router.tables, ∀ piece ∈ r.pieces table,
      (Chunk.groupNames piece).Nodup := by decide +kernel
  obtain ⟨route, hroute, hpatterns⟩ := Option.map_eq_some_iff.mp hparse
  have hok := ok_of_toOption hroute
  have hreachable : r.Reachable := Router.reachable_afterAll _ _
  obtain ⟨hparsed, hspecified, hmatcher, -⟩ := compiles_iff_groupNames_nodup "[^/]+" template none route
    "q" "(?P<m>y)\x7b0\x7dc" r
  refine ⟨hquiet, ⟨route, hok, ?_, ?_⟩, hreachable, hrouter, ?_⟩
  · exact ((hparsed hquiet).1.mp ⟨route, hok⟩).1
  · refine (hspecified (.parsed hok) (hpatterns ▸ hquiet) hpattern).1.mpr ?_
    exact .inr ⟨ok_of_toOption hvalid, hpatterns ▸ hnames⟩
  · exact (hmatcher hreachable hrouter).1.mpr hnodup

/-- Two patterns that are valid by themselves, with a group of the same name in each: there is no template
with both, and no matcher for two routes with one each. -/
theorem not_compiles_of_shared_groupName :
    let r := Router.afterAll {} [.add "/a/\x7bp:(?P<n>x)\x7b0\x7db\x7d" .any (some "a"),
      .add "/b/\x7bq:(?P<n>x)\x7b0\x7db\x7d" .any (some "b")]
    Route.validatePattern "p" "(?P<n>x)\x7b0\x7db" = .ok () ∧
      Route.validatePattern "q" "(?P<n>x)\x7b0\x7db" = .ok () ∧
      (Route.parse "[^/]+" "/\x7bp:(?P<n>x)\x7b0\x7db\x7d/\x7bq:(?P<n>x)\x7b0\x7db\x7d"
        none).toOption.isNone ∧
      r.Reachable ∧ r.Quiet ∧
      r.routes.toList.map Route.patterns =
        [[("p", "(?P<n>x)\x7b0\x7db")], [("q", "(?P<n>x)\x7b0\x7db")]] ∧
      (Matcher.ofRouter r).toOption.isNone := by
  intro r
  obtain ⟨hfirst, hsecond, htemplate⟩ :
      (Route.validatePattern "p" "(?P<n>x)\x7b0\x7db").toOption = some () ∧
      (Route.validatePattern "q" "(?P<n>x)\x7b0\x7db").toOption = some () ∧
      (Route.parse "[^/]+" "/\x7bp:(?P<n>x)\x7b0\x7db\x7d/\x7bq:(?P<n>x)\x7b0\x7db\x7d"
        none).toOption.isNone := by decide +kernel
  refine ⟨ok_of_toOption hfirst, ok_of_toOption hsecond, htemplate, Router.reachable_afterAll _ _, ?_⟩
  decide +kernel

end Routing
