import Electorate.CommandLine.Run
import Electorate.Proofs.ChartCover
import Electorate.Proofs.Extraction
import Electorate.Proofs.IntegerRange
import Electorate.Proofs.StatementsPut
import Electorate.Proofs.Statuses
import Electorate.Proofs.StoreFaults

/-!
# The integers of what is asked

Every statement that a request or a command puts to the store has integers that fit their columns,
but for those that were given as an age, as a year of an election or as a year of a chart: these
reach the store however great they are.

* `GivenBy`, `Web.IsChartYear`: the integers that parameters, or a chart, take over from texts.
* `puts_answerVoters`, `puts_answerChart`, ...: one lemma for each endpoint.
* `integers_fit_or_given`: all statements of requests and of commands.
-/

namespace Electorate

open Electorate.Sql Electorate.Store

/-- The integers of a statement fit, but for some. -/
def Fitting (A : Int → Prop) (s : Statement) : Prop := ∀ n ∈ s.integers, FitsInteger n ∨ A n

variable {A : Int → Prop} {year : Int} {spec : FilterSpec}

/-- The integers of a condition fit, but for some. -/
def FittingCondition (A : Int → Prop) (p : Predicate) : Prop :=
  ∀ n ∈ p.integers, FitsInteger n ∨ A n

/-! ## Inquiries -/

namespace Roster

theorem puts_listVoters (h : FittingCondition A (spec.predicate year)) (page : Page)
    (field direction : String) :
    Puts (Fitting A) (fun _ => True) (listVoters year spec page field direction) :=
  (Puts.liftExcept _ _).bind fun _ _ => (Puts.liftExcept _ _).bind fun _ _ =>
    (Puts.askGuarded h).bind fun _ _ => (Puts.askGuarded h).bind fun _ _ => .pure trivial

theorem puts_mapStats (h : FittingCondition A (spec.predicate year)) (box : Geo.Box Float) :
    Puts (Fitting A) (fun _ => True) (mapStats year spec box) := by
  have hviewport : Fitting A (.averageScore (viewportPredicate box (spec.predicate year))) := by
    intro n hn
    obtain ⟨p, hp, hn⟩ := Predicate.mem_integers_conj.mp hn
    simp only [List.mem_cons, List.not_mem_nil, or_false] at hp
    rcases hp with rfl | rfl | rfl
    · cases hn
    · cases hn
    · exact h n hn
  exact (Puts.askGuarded hviewport).bind fun _ _ => (Puts.read _).any

theorem puts_lookup (names : List String) :
    Puts (Fitting A) (fun _ => True) (lookup names) := by
  refine (Puts.liftExcept _ _).bind fun fields _ => ?_
  refine .mapM (R := fun _ => True) fun field _ => ?_
  exact (Puts.askGuarded nofun).bind fun _ _ => (Puts.read _).bind fun _ _ => .pure trivial

/-- An address names no integers. -/
theorem puts_household (number : String) :
    Puts (Fitting A) (fun _ => True) (household number) := by
  refine (Puts.askGuarded nofun).bind fun found _ => ?_
  split
  · exact .pure trivial
  · split
    · exact .pure trivial
    · rename_i voter _ _ atAddress haddress
      obtain ⟨address, -, hpredicate⟩ := Option.bind_eq_some_iff.mp haddress
      have hmembers : Fitting A (membersStatement atAddress number) := by
        intro n hn
        rcases Predicate.mem_integers_both.mp hn with hn | hn
        · rw [ResidentAddress.integers_predicate? hpredicate] at hn
          cases hn
        · cases hn
      exact (Puts.askGuarded hmembers).bind fun _ _ => .pure trivial

end Roster

namespace Chart

theorem fitting_category (hyear : IsYear year) (grouping : Grouping) :
    ∀ n ∈ (grouping.category year).integers, FitsInteger n := by
  intro n hn
  cases grouping
  case ageRange => exact fits_of_mem_ageCase hyear hn
  case scoreRange =>
    have hnone : n ∈ scoreCase.integers := hn
    rw [integers_scoreCase] at hnone
    cases hnone
  all_goals cases hn

theorem puts_ofRow (row : Row) :
    Puts (Fitting A) (fun _ => True)
      (liftExcept (CategoryCount.ofRow row) : Inquiry Failure CategoryCount) := by
  unfold CategoryCount.ofRow
  split
  · exact (Puts.liftExcept _ _).any
  · exact .throw _

theorem puts_snapshot (hyear : IsYear year) (h : FittingCondition A (spec.predicate year))
    (groupBy : String) :
    Puts (Fitting A) (fun _ => True) (snapshot year spec groupBy) := by
  unfold snapshot
  cases Grouping.ofName? groupBy with
  | none => exact .throw _
  | some grouping =>
    have hgroups : Fitting A
        (.countByCategory (grouping.category year) (spec.predicate year)) := by
      intro n hn
      rcases List.mem_append.mp hn with hn | hn
      · exact .inl (fitting_category hyear grouping n hn)
      · exact h n hn
    refine (Puts.askGuarded hgroups).bind fun answer _ => ?_
    exact (Puts.mapM fun row _ => puts_ofRow row).bind fun _ _ => .pure trivial

theorem puts_combinationCounts {combinations : List Combination} {base : FilterSpec}
    (h : ∀ c ∈ combinations, FittingCondition A (combinationPredicate year base c))
    (withTotal : Bool) :
    Puts (Fitting A) (fun _ => True) (combinationCounts year combinations base withTotal) :=
  (Puts.mapM (R := fun _ => True) fun c hc =>
    (Puts.attempt (h c hc)).bind fun _ _ => .pure trivial).bind fun _ _ => .pure trivial

theorem fitting_countByYear {years : List Int} {p : Predicate} (hyears : ∀ n ∈ years, A n)
    (hp : FittingCondition A p) : Fitting A (.countByYear years p) := by
  intro n hn
  rcases List.mem_append.mp hn with hn | hn
  · exact .inr (hyears n hn)
  · exact hp n hn

theorem mem_of_mem_uniqueYears {years chosen : List Int} (h : uniqueYears years = .ok chosen)
    {n : Int} (hn : n ∈ chosen) : n ∈ years := by
  unfold uniqueYears at h
  split at h
  · cases h
  · obtain rfl := Except.ok.inj h
    exact mem_distinct.mp hn

theorem puts_countTotals {years : List Int} (h : ∀ n ∈ years, A n) :
    Puts (Fitting A) (fun _ => True) (countTotals years) := by
  refine (Puts.liftExcept _ _).bind fun chosen hchosen => ?_
  have hyears : Fitting A (.countByYear chosen .always) :=
    fitting_countByYear (fun n hn => h n (mem_of_mem_uniqueYears hchosen hn)) nofun
  exact (Puts.askGuarded hyears).bind fun _ _ => (Puts.read _).any

/-- Totals that are kept are not asked for. -/
theorem puts_totals {years : List Int} (h : ∀ n ∈ years, A n) :
    Puts (Fitting A) (fun _ => True) (totals years) := by
  intro session
  rcases hget : session.totals.get session.now (totalsKey years) with ⟨_ | counts, cache⟩
  · rw [run_totals_of_none hget]
    have hfresh : Puts (Fitting A) (fun _ => True) (freshTotals years) :=
      (puts_countTotals h).bind fun counts _ => (Puts.modify fun _ => rfl).bind fun _ _ =>
        .pure trivial
    exact hfresh { session with totals := cache }
  · rw [run_totals_of_some hget]
    exact ⟨[], by simp, nofun, fun _ _ => trivial⟩

theorem puts_countsOverTime {combinations : List Combination} {base : FilterSpec}
    {years : List Int} (hyears : ∀ n ∈ years, A n)
    (h : ∀ c ∈ combinations, FittingCondition A (combinationPredicate year base c))
    (ratio : Bool) :
    Puts (Fitting A) (fun _ => True) (countsOverTime year combinations years base ratio) := by
  have hchosen (chosen : List Int) (h : uniqueYears years = .ok chosen) : ∀ n ∈ chosen, A n :=
    fun n hn => hyears n (mem_of_mem_uniqueYears h hn)
  have hcounts (chosen : List Int) (hmem : ∀ n ∈ chosen, A n) :
      Puts (Fitting A) (fun _ => True) (combinations.mapM (countYears year base chosen)) :=
    .mapM (R := fun _ => True) fun c hc =>
      (Puts.attempt (fitting_countByYear hmem (h c hc))).bind fun _ _ => .pure trivial
  cases ratio with
  | false =>
    simp only [countsOverTime, Bool.false_eq_true, if_false, pure_bind]
    refine (Puts.liftExcept _ _).bind fun chosen h => ?_
    exact (hcounts chosen (hchosen chosen h)).bind fun _ _ => .pure trivial
  | true =>
    simp only [countsOverTime, if_true]
    refine (Puts.liftExcept _ _).bind fun chosen h => ?_
    refine (puts_totals (hchosen chosen h)).bind fun totals _ => ?_
    exact (hcounts chosen (hchosen chosen h)).bind fun _ _ => (Puts.read _).bind fun _ _ =>
      .pure trivial

/-- The filter of a combination takes no integer over that the whole filter does not. -/
theorem fitting_combination {limit : Option Int} {combinations : List Combination}
    (hyear : IsYear year)
    (h : chartCombinations spec Dimension.combinable limit = .ok combinations) :
    ∀ c ∈ combinations, FittingCondition (spec.Unguarded year)
      (combinationPredicate year (spec.without Dimension.combinable) c) := by
  obtain ⟨-, -, rfl⟩ := FilterSpec.chartCombinations_eq_ok_iff.mp h
  intro c hc n hn
  cases hid : spec.exactId? with
  | some id =>
    simp only [FilterSpec.combinations, hid, List.mem_singleton] at hc
    rw [hc, predicate_exactId hid] at hn
    exact FilterSpec.fits_or_unguarded hyear hn
  | none =>
    rw [FilterSpec.combinations_eq_choices hid] at hc
    split at hc
    · cases hc
    · obtain ⟨row, hrow, rfl⟩ := List.mem_map.mp hc
      refine (FilterSpec.fits_or_unguarded hyear hn).imp_right ?_
      -- What is taken over without a check is not crossed: the combination has it from the filter.
      rintro ⟨d, hd, values, hget, hnames⟩
      have hcrossed : d.name ∉ Dimension.combinable := by
        revert hd
        cases d <;> decide
      rw [get?_combinationSpec hrow, if_neg hcrossed] at hget
      exact ⟨d, hd, values, hget, hnames⟩

end Chart

/-! ## What was given -/

theorem Number.readInteger?_strip (s : String) : readInteger? (Text.strip s) = readInteger? s := by
  unfold readInteger? readInteger
  rw [Text.strip, String.toList_ofList, Text.trimBlanks_trimBlanks]
  dsimp only
  split
  · rfl
  · rfl

/-- An integer that parameters give: a birth year by an age, or the year of an election. -/
def GivenBy (params : List (String × String)) (year n : Int) : Prop :=
  ∃ p ∈ params,
    ((p.1 = Dimension.ageMin.name ∨ p.1 = Dimension.ageMax.name) ∧
      ∃ age, Number.readInteger? p.2 = some age ∧ n = year - age) ∨
    p.1 = Dimension.electionYear.name ∧ Number.readInteger? p.2 = some n

/-- What a filter takes over without a check was given by its parameters. -/
theorem FilterSpec.given_of_unguarded {params : List (String × String)}
    {allowed ignored : List String} {raiseCase : Bool} {n : Int}
    (h : ofParams params allowed ignored raiseCase = .ok spec) (hn : spec.Unguarded year n) :
    GivenBy params year n := by
  obtain ⟨d, hd, values, hget, hnames⟩ := hn
  have hread {x : String} (hcase : d.foldsCase = false) (haddress : d ≠ .residentAddress)
      (hx : x ∈ values) :
      ∃ p ∈ params, p.1 = d.name ∧ Number.readInteger? x = Number.readInteger? p.2 := by
    obtain ⟨p, hp, hname, hnormal⟩ := exists_param_of_get? h hget hx
    rw [normalizeValue_eq_strip hcase haddress hnormal]
    exact ⟨p, hp, hname, Number.readInteger?_strip p.2⟩
  have hfirst : values.headD "" ∈ values := by
    cases hvalues : values with
    | nil => exact absurd hvalues (ne_nil_of_get? hget)
    | cons x rest => exact List.mem_cons_self
  simp only [List.mem_cons, List.not_mem_nil, or_false] at hd
  rcases hd with rfl | rfl | rfl
  · obtain ⟨age, hage, rfl⟩ := hnames
    obtain ⟨p, hp, hname, hsame⟩ := hread rfl (by decide) hfirst
    exact ⟨p, hp, .inl ⟨.inl hname, age, hsame ▸ hage, rfl⟩⟩
  · obtain ⟨age, hage, rfl⟩ := hnames
    obtain ⟨p, hp, hname, hsame⟩ := hread rfl (by decide) hfirst
    exact ⟨p, hp, .inl ⟨.inr hname, age, hsame ▸ hage, rfl⟩⟩
  · obtain ⟨x, hx, hread'⟩ := hnames
    obtain ⟨p, hp, hname, hsame⟩ := hread rfl (by decide) hx
    exact ⟨p, hp, .inr ⟨hname, hsame ▸ hread'⟩⟩

theorem FilterSpec.fitting_ofParams {params : List (String × String)}
    {allowed ignored : List String} {raiseCase : Bool} (hyear : IsYear year)
    (h : ofParams params allowed ignored raiseCase = .ok spec) :
    FittingCondition (GivenBy params year) (spec.predicate year) := fun _ hn =>
  (fits_or_unguarded hyear hn).imp_right (given_of_unguarded h)

/-! ## Requests -/

namespace Web

variable {q : Query} {settings : Settings}

/-- An integer that a chart counts by: one of the years of the settings, or of the request. -/
def IsChartYear (settings : Settings) (q : Query) (n : Int) : Prop :=
  (∃ piece ∈ commaList settings.chartYears, Number.readInteger piece = .ok n) ∨
    ∃ raw ∈ q.last? "years", ∃ piece ∈ commaList raw, Number.readInteger piece = .ok n

/-- What a request gives its statements. -/
def Given (settings : Settings) (q : Query) (year n : Int) : Prop :=
  GivenBy q year n ∨ IsChartYear settings q n

theorem puts_answerVoters (hyear : IsYear year) :
    Puts (Fitting (Given settings q year)) (fun _ => True) (answerVoters year q) := by
  refine (puts_checked _).bind fun fields _ => (puts_accepted _).bind fun spec hspec => ?_
  have hfits : FittingCondition (Given settings q year) (spec.predicate year) := fun n hn =>
    (FilterSpec.fitting_ofParams hyear hspec n hn).imp_right .inl
  refine (Puts.orFail (Roster.puts_listVoters hfits _ _ _)).bind fun listing _ => ?_
  exact (puts_summaries _).bind fun _ _ => (puts_readTotal _).bind fun _ _ => .pure trivial

theorem puts_answerSummary (hyear : IsYear year) :
    Puts (Fitting (Given settings q year)) (fun _ => True) (answerSummary year q) := by
  refine (puts_checked _).bind fun groupBy _ => (puts_accepted _).bind fun spec hspec => ?_
  have hfits : FittingCondition (Given settings q year) (spec.predicate year) := fun n hn =>
    (FilterSpec.fitting_ofParams hyear hspec n hn).imp_right .inl
  exact (Puts.orFail (Chart.puts_snapshot hyear hfits groupBy)).bind fun _ _ => .pure trivial

theorem puts_answerMapStats (hyear : IsYear year) :
    Puts (Fitting (Given settings q year)) (fun _ => True) (answerMapStats year q) := by
  refine (puts_checked _).bind fun raw _ => (puts_accepted _).bind fun box _ =>
    (puts_accepted _).bind fun spec hspec => ?_
  have hfits : FittingCondition (Given settings q year) (spec.predicate year) := fun n hn =>
    (FilterSpec.fitting_ofParams hyear hspec n hn).imp_right .inl
  exact (Puts.orFail (Roster.puts_mapStats hfits box)).bind fun _ _ => .pure trivial

/-- The years of a chart were read from the request, or they are those of the settings. -/
theorem puts_readYears (raw : Option String) {default : List Int}
    (hdefault : ∀ n ∈ default, A n)
    (hraw : ∀ text ∈ raw, ∀ piece ∈ commaList text, ∀ n, Number.readInteger piece = .ok n → A n) :
    Puts S (fun years => ∀ n ∈ years, A n) (readYears raw default) := by
  cases raw with
  | none => exact .pure hdefault
  | some text =>
    by_cases hblank : Text.isBlankText text
    · simp only [readYears, hblank, if_true]
      exact .pure hdefault
    · cases hyears : (commaList text).mapM Number.readInteger with
      | error e =>
        simp only [readYears, if_neg hblank, hyears]
        exact .throw _
      | ok years =>
        have hallowed : ∀ n ∈ years, A n := by
          intro n hn
          obtain ⟨piece, hpiece, hread⟩ := exists_of_mem_mapM hyears hn
          exact hraw text rfl piece hpiece n hread
        simp only [readYears, if_neg hblank, hyears]
        refine Puts.mono (puts_accepted _) fun chosen hchosen n hn => ?_
        exact hallowed n (Chart.mem_of_mem_uniqueYears hchosen hn)

theorem puts_answerChart (hyear : IsYear year) :
    Puts (Fitting (Given settings q year)) (fun _ => True) (answerChart settings year q) := by
  refine (puts_checked _).bind fun kind _ => (puts_accepted _).bind fun spec hspec => ?_
  refine (Puts.orFail (Puts.liftExcept _ _)).bind fun combinations hcombinations => ?_
  have hfits : ∀ c ∈ combinations, FittingCondition (Given settings q year)
      (Chart.combinationPredicate year (spec.without Dimension.combinable) c) := fun c hc n hn =>
    (Chart.fitting_combination hyear hcombinations c hc n hn).imp_right fun h =>
      .inl (FilterSpec.given_of_unguarded hspec h)
  dsimp only
  split
  · exact (Puts.orFail (Chart.puts_combinationCounts hfits true)).bind fun _ _ => .pure trivial
  · refine (Puts.orFail (Puts.read _)).bind fun default hdefault => ?_
    have hsettings : ∀ n ∈ default, Given settings q year n := by
      intro n hn
      have hlist : settings.chartYearList = .ok default := mapError_eq_ok.mp hdefault
      exact .inr (.inl (exists_of_mem_mapM hlist hn))
    refine (puts_readYears (q.last? "years") hsettings ?_).bind fun years hmem => ?_
    · exact fun text htext piece hpiece n hread => .inr (.inr ⟨text, htext, piece, hpiece, hread⟩)
    exact (Puts.orFail (Chart.puts_countsOverTime hmem hfits _)).bind fun _ _ => .pure trivial

theorem puts_answerLookup : Puts (Fitting A) (fun _ => True) (answerLookup q) :=
  (puts_checked _).bind fun _ _ => (Puts.orFail (Roster.puts_lookup _)).bind fun _ _ =>
    puts_fitting _

theorem puts_answerHousehold (number : String) :
    Puts (Fitting A) (fun _ => True) (answerHousehold number) := by
  refine (puts_accepted _).bind fun id _ =>
    (Puts.orFail (Roster.puts_household id)).bind fun members _ => ?_
  split
  · exact .throw _
  · exact (puts_summaries _).bind fun _ _ => .pure trivial

theorem puts_answer (hyear : IsYear year) (e : Endpoint) :
    Puts (Fitting (Given settings q year)) (fun _ => True) (answer settings year q e) := by
  cases e with
  | voters => exact puts_answerVoters hyear
  | summary => exact puts_answerSummary hyear
  | chartData => exact puts_answerChart hyear
  | mapStats => exact puts_answerMapStats hyear
  | lookup => exact puts_answerLookup
  | household number => exact puts_answerHousehold number

namespace Application

/-- The statements of a session behind those of another one have integers that fit, but for some. -/
def AsksFitting (A : Int → Prop) (session after : Session) : Prop :=
  ∃ put, after.asked = session.asked ++ put ∧ ∀ s ∈ put, Fitting A s

variable {app : Application}

theorem AsksFitting.refl (session : Session) : AsksFitting A session session :=
  ⟨[], by rw [List.append_nil], nofun⟩

theorem asksFitting_respondAt (hyear : IsYear year) (e : Endpoint) :
    AsksFitting (Given app.settings q year) app.session (app.respondAt year q e).2 := by
  have hanswer : Puts (Fitting (Given app.settings q year)) (fun _ => True)
      (do sendable (← answer app.settings year q e)) := by
    refine (puts_answer hyear e).bind fun j _ => ?_
    unfold sendable
    split
    · exact .pure trivial
    · exact .throw _
  by_cases hstarted : app.started = true
  · obtain ⟨put, hasked, hput, -⟩ := hanswer app.session
    rw [respondAt_snd hstarted]
    exact ⟨put, hasked, hput⟩
  · rw [respondAt, if_neg hstarted]
    exact .refl _

/-- The statements that the response to a request puts. -/
theorem asksFitting_respond (hyear : IsYear year) (app : Application) (r : Request) :
    AsksFitting (Given app.settings r.query year) app.session
      (app.respond year r).2.session := by
  by_cases hadmits : admits app.settings.rateLimitPerMinute (app.counted r).1
  · rw [respond_of_admits hadmits]
    show AsksFitting _ app.session (app.route year r).2
    unfold route
    split
    · exact .refl _
    · exact .refl _
    · split
      · exact asksFitting_respondAt hyear _
      · exact .refl _
  · rw [respond_of_not_admits hadmits]
    exact .refl _

end Application

end Web

/-! ## Commands -/

namespace CommandLine

/-- The words of a command that name filters. -/
def Command.filterWords : Command → List String
  | explain words | combinations words _ | count words => words
  | _ => []

theorem readFilters_eq_ok {words : List String} {raiseCase : Bool}
    (h : readFilters words raiseCase = .ok spec) : ∃ pairs, words.mapM readPair = .ok pairs ∧
      FilterSpec.ofParams pairs Dimension.allNames [] raiseCase = .ok spec := by
  obtain ⟨pairs, hpairs, h⟩ := bind_eq_ok.mp h
  exact ⟨pairs, hpairs, mapError_eq_ok.mp h⟩

theorem readCombinations_eq_ok {words : List String} {combinations : List Combination}
    (h : readCombinations words = .ok (spec, combinations)) :
    readFilters words false = .ok spec ∧
      chartCombinations spec Dimension.combinable none = .ok combinations := by
  obtain ⟨spec', hspec, h⟩ := bind_eq_ok.mp h
  obtain ⟨combinations', hcombinations, h⟩ := bind_eq_ok.mp h
  obtain ⟨rfl, rfl⟩ := Prod.mk.inj (Except.ok.inj h)
  exact ⟨hspec, mapError_eq_ok.mp hcombinations⟩

variable {S : Statement → Prop} {session : Session}

theorem asked_orRefused {r : Except FilterFault α} {f : α → Report × Session}
    (h : ∀ a, r = .ok a → ∃ put, (f a).2.asked = session.asked ++ put ∧ ∀ s ∈ put, S s) :
    ∃ put, (orRefused r f session).2.asked = session.asked ++ put ∧ ∀ s ∈ put, S s := by
  cases r with
  | ok a => exact h a rfl
  | error e => exact ⟨[], by rw [List.append_nil]; rfl, nofun⟩

theorem asked_reported {q : Inquiry Failure α} (h : Puts S (fun _ => True) q) (f : α → String) :
    ∃ put, (reported q f session).2.asked = session.asked ++ put ∧ ∀ s ∈ put, S s := by
  obtain ⟨put, hasked, hput, -⟩ := h session
  rw [reported_snd]
  exact ⟨put, hasked, hput⟩

/-- What the words of a command give its statements. -/
def Given (command : Command) (year n : Int) : Prop :=
  ∃ pairs, command.filterWords.mapM readPair = .ok pairs ∧ GivenBy pairs year n

/-- The statements that a command puts. -/
theorem asked_runCommand (hyear : IsYear year) (session : Session) (command : Command) :
    ∃ put, (runCommand year session command).2.asked = session.asked ++ put ∧
      ∀ s ∈ put, Fitting (Given command year) s := by
  have hnone : ∃ put, session.asked = session.asked ++ put ∧
      ∀ s ∈ put, Fitting (Given command year) s := ⟨[], by rw [List.append_nil], nofun⟩
  cases command with
  | explain words => exact asked_orRefused fun spec _ => hnone
  | combinations words counts =>
    refine asked_orRefused fun (spec, combinations) h => ?_
    obtain ⟨hspec, hcombinations⟩ := readCombinations_eq_ok h
    obtain ⟨pairs, hpairs, hparams⟩ := readFilters_eq_ok hspec
    cases counts with
    | false => exact hnone
    | true =>
      refine asked_reported (Chart.puts_combinationCounts (fun c hc n hn => ?_) true) _
      refine (Chart.fitting_combination hyear hcombinations c hc n hn).imp_right fun hn => ?_
      exact ⟨pairs, hpairs, FilterSpec.given_of_unguarded hparams hn⟩
  | count words =>
    refine asked_orRefused fun spec hspec => ?_
    obtain ⟨pairs, hpairs, hparams⟩ := readFilters_eq_ok hspec
    have hcount : Fitting (Given (.count words) year) (.count (spec.predicate year)) :=
      fun n hn => (FilterSpec.fitting_ofParams hyear hparams n hn).imp_right fun h =>
        ⟨pairs, hpairs, h⟩
    exact asked_reported ((Puts.askGuarded hcount).bind fun _ _ => (Puts.read _).any) _
  | upgrade | downgrade | current | serve => exact hnone

/-- The statements of a command line. -/
theorem fitting_run (hyear : IsYear year) (env : List (String × String)) (outcomes : List Outcome)
    (words : List String) : ∀ s ∈ (run year env outcomes words).2,
      Fitting (fun n => ∃ command, Command.parse words = .ok command ∧ Given command year n) s := by
  unfold run
  split
  · exact nofun
  · split
    · exact nofun
    · split
      · exact nofun
      · split
        · exact nofun
        · rename_i settings _ _ _ _ _ command hcommand
          obtain ⟨put, hasked, hput⟩ :=
            asked_runCommand hyear (startSession settings outcomes) command
          intro s hs n hn
          have hmem : s ∈ put := by
            have hs' : s ∈ (startSession settings outcomes).asked ++ put := hasked ▸ hs
            exact hs'
          exact (hput s hmem n hn).imp_right fun h => ⟨command, hcommand, h⟩

end CommandLine

/-- What is bound as INTEGER. In a year of four digits, every integer that a statement of a request
or of a command names for a column of 32 bits fits it, unless it was given: as a year less an age,
as the year of an election, or as a year of a chart. These are named as they were given, whatever
their magnitude, where their dimension means something. -/
theorem integers_fit_or_given (year : Int) (hyear : IsYear year) :
    (∀ (s : Statement) n, (Bound.integer n ∈ s.render.params → FitsInteger n ∨ n ∈ s.integers) ∧
      (n ∈ s.integers → Bound.integer n ∈ s.render.params ∨ Bound.sized n ∈ s.render.params)) ∧
    (∀ (spec : FilterSpec) n, n ∈ (spec.predicate year).integers ↔
      spec.exactId? = none ∧ ∃ (d : Dimension) (values : List String),
        spec.get? d.name = some values ∧ d.Constrains spec values ∧ d.Names year values n) ∧
    (∀ (app : Web.Application) r, ∃ put,
      (app.respond year r).2.session.asked = app.session.asked ++ put ∧
        ∀ s ∈ put, ∀ n ∈ s.integers, FitsInteger n ∨ GivenBy r.query year n ∨
          Web.IsChartYear app.settings r.query n) ∧
    ∀ env outcomes words, ∀ s ∈ (CommandLine.run year env outcomes words).2, ∀ n ∈ s.integers,
      FitsInteger n ∨ ∃ command pairs, CommandLine.Command.parse words = .ok command ∧
        command.filterWords.mapM CommandLine.readPair = .ok pairs ∧ GivenBy pairs year n := by
  refine ⟨fun s n => ⟨Statement.fits_or_mem_integers, Statement.binds_of_mem_integers⟩,
    fun spec n => FilterSpec.mem_integers_predicate_iff, fun app r => ?_,
    fun env outcomes words s hs n hn => ?_⟩
  · exact Web.Application.asksFitting_respond hyear app r
  · refine (CommandLine.fitting_run hyear env outcomes words s hs n hn).imp_right ?_
    rintro ⟨command, hcommand, pairs, hpairs, hgiven⟩
    exact ⟨command, pairs, hcommand, hpairs, hgiven⟩

/-- Of the voters of at least thirty years only birth years are asked for that fit. -/
theorem integers_fit_or_given_thirty :
    IsYear 2024 ∧ ∃ put,
      ((⟨Settings.ofUrl "db", true, .empty, ⟨[], [], .empty 1 1, 0⟩⟩ :
        Web.Application).respond 2024
          ⟨"GET", "/api/v1/voters", [("ageMin", "30")], [], none⟩).2.session.asked = put ∧
      ∀ s ∈ put, ∀ n ∈ s.integers, FitsInteger n ∨
        GivenBy [("ageMin", "30")] 2024 n ∨ Web.IsChartYear (Settings.ofUrl "db") [("ageMin", "30")] n := by
  have hyear : IsYear 2024 := by unfold IsYear; omega
  obtain ⟨put, hasked, hput⟩ := (integers_fit_or_given 2024 hyear).2.2.1
    ⟨Settings.ofUrl "db", true, .empty, ⟨[], [], .empty 1 1, 0⟩⟩
    ⟨"GET", "/api/v1/voters", [("ageMin", "30")], [], none⟩
  exact ⟨hyear, put, hasked, hput⟩

open Web in
/-- An age that is too great is accepted, and its birth year is bound as INTEGER. -/
theorem not_fits_ageMin :
    let app : Web.Application := ⟨Settings.ofUrl "db", true, .empty, ⟨[], [], .empty 1 1, 0⟩⟩
    let r : Web.Request := ⟨"GET", "/api/v1/voters", [("ageMin", "99999999999")], [], none⟩
    (app.respond 2024 r).1.status = 200 ∧
      ¬∀ s ∈ (app.respond 2024 r).2.session.asked, ∀ n, Bound.integer n ∈ s.render.params →
        FitsInteger n := by
  intro app r
  have hstatus : (app.respond 2024 r).1.status = 200 := by decide +kernel
  have hasked : (app.respond 2024 r).2.session.asked[0]? =
      some (.count (.number .birthYear (.compare .atMost (.int (-99999997975))))) := by
    have hadmits : admits app.settings.rateLimitPerMinute (app.counted r).1 := by decide +kernel
    rw [Application.respond_of_admits hadmits]
    subst app r
    rfl
  refine ⟨hstatus, fun hfits => ?_⟩
  have hbound : Bound.integer (-99999997975) ∈ (Statement.count
      (.number .birthYear (.compare .atMost (.int (-99999997975))))).render.params := by
    rw [Statement.render, mem_params_assemble]
    exact NumberTest.integer_mem_bounds_iff.mpr (by simp [NumberTest.integers])
  obtain ⟨hlow, -⟩ := hfits _ (List.mem_of_getElem? hasked) _ hbound
  omega

end Electorate
