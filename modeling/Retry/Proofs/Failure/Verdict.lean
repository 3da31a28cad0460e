import Retry.Failure.Http

/-!
# Verdicts on wrapped failures

The options judge a failure by the outermost link of its chain that an HTTP client reported, and by
nothing else: links of other kinds above it and links of any kind below it make no difference
(`HttpOptions.allows_outermost`). There are five reasons to accept what was reported. An option that
is turned on adds one of them and takes none away.
-/

namespace Retry

/-- A link that no HTTP client reported. -/
def Link.Foreign (link : Link) : Prop := link.http = none

/-- A failure with a status came with a response, so nothing timed out and there was a
connection. -/
def HttpFailure.Consistent (http : HttpFailure) : Prop :=
  http.status ≠ none → http.isTimeout = false ∧ http.isConnect = false

namespace Failure

/-- What an HTTP client reported, in the outermost link that holds such a report. -/
inductive Outermost (http : HttpFailure) : Failure → Prop
  | reported {link : Link} {causes : List Link} (hhttp : link.http = some http) :
      Outermost http ⟨link, causes⟩
  | wrapped {link : Link} {failure : Failure} (hforeign : link.Foreign)
      (hinner : Outermost http failure) : Outermost http (failure.wrap link)

/-- The failure below a row of links, the outermost of which comes first. -/
def wrapAll (links : List Link) (failure : Failure) : Failure := links.foldr wrap failure

variable {failure failure' : Failure} {link : Link} {links : List Link} {http : HttpFailure}

/-! ### One step of the walk -/

theorem http?_of_reported (hhttp : failure.link.http = some http) : failure.http? = some http := by
  rw [http?, chain, List.findSome?_cons, hhttp]

theorem http?_wrap (link : Link) (failure : Failure) :
    (failure.wrap link).http? = link.http.or failure.http? := by
  rw [http?, chain_wrap, List.findSome?_cons]
  cases link.http <;> rfl

theorem http?_wrap_foreign (hforeign : link.Foreign) (failure : Failure) :
    (failure.wrap link).http? = failure.http? := by
  rw [http?_wrap, hforeign, Option.none_or]

/-! ### The whole walk -/

theorem http?_eq_some_iff : failure.http? = some http ↔ failure.Outermost http := by
  constructor
  · obtain ⟨link, causes⟩ := failure
    induction causes generalizing link with
    | nil =>
        intro hfound
        rw [http?, chain, List.findSome?_singleton] at hfound
        exact .reported hfound
    | cons cause causes ih =>
        -- The failure is its nearest cause, wrapped in the link.
        change (Failure.wrap link ⟨cause, causes⟩).http? = some http → _
        intro hfound
        cases hhttp : link.http with
        | none => exact .wrapped hhttp (ih cause (http?_wrap_foreign hhttp _ ▸ hfound))
        | some found =>
            rw [http?_wrap, hhttp, Option.some_or] at hfound
            exact .reported (hhttp.trans hfound)
  · intro houtermost
    induction houtermost with
    | reported hhttp => exact http?_of_reported hhttp
    | wrapped hforeign _ ih => exact (http?_wrap_foreign hforeign _).trans ih

theorem http?_wrapAll_foreign (hforeign : ∀ link ∈ links, link.Foreign) (failure : Failure) :
    (failure.wrapAll links).http? = failure.http? := by
  induction links with
  | nil => rfl
  | cons link links ih =>
      obtain ⟨hlink, hlinks⟩ := List.forall_mem_cons.mp hforeign
      exact (http?_wrap_foreign hlink _).trans (ih hlinks)

/-- The links above two failures do not tell them apart. -/
theorem http?_wrapAll_congr (links : List Link) (hsame : failure.http? = failure'.http?) :
    (failure.wrapAll links).http? = (failure'.wrapAll links).http? := by
  induction links with
  | nil => exact hsame
  | cons link links ih =>
      calc ((failure.wrapAll links).wrap link).http?
          = link.http.or (failure.wrapAll links).http? := http?_wrap link _
        _ = link.http.or (failure'.wrapAll links).http? := by rw [ih]
        _ = ((failure'.wrapAll links).wrap link).http? := (http?_wrap link _).symm

end Failure

namespace HttpOptions

/-- Why an HTTP failure is accepted. A failed connection counts only if nothing timed out, and a
status only if there was neither. -/
inductive Accepts (options : HttpOptions) (http : HttpFailure) : Prop
  | timeout (htimeout : http.isTimeout = true) (hon : options.retryOnTimeout = true)
  | connect (hintime : http.isTimeout = false) (hconnect : http.isConnect = true)
      (hon : options.retryOnConnect = true)
  | tooManyRequests (hintime : http.isTimeout = false) (hconnected : http.isConnect = false)
      (hstatus : http.status = some 429)
  | clientError {status : Nat} (hintime : http.isTimeout = false)
      (hconnected : http.isConnect = false) (hstatus : http.status = some status)
      (hrange : 400 ≤ status ∧ status < 500) (hon : options.retryOnClientError = true)
  | serverError {status : Nat} (hintime : http.isTimeout = false)
      (hconnected : http.isConnect = false) (hstatus : http.status = some status)
      (hrange : 500 ≤ status ∧ status < 600) (hon : options.retryOnServerError = true)

/-- Every option that is on in the first options is on in the second. -/
structure Widened (options wider : HttpOptions) : Prop where
  clientError : options.retryOnClientError = true → wider.retryOnClientError = true
  serverError : options.retryOnServerError = true → wider.retryOnServerError = true
  timeout : options.retryOnTimeout = true → wider.retryOnTimeout = true
  connect : options.retryOnConnect = true → wider.retryOnConnect = true

variable {options wider : HttpOptions} {failure failure' : Failure} {http : HttpFailure}

theorem allowsStatus_eq_true_iff {status : Nat} :
    options.allowsStatus status = true
      ↔ status = 429
        ∨ (400 ≤ status ∧ status < 500) ∧ options.retryOnClientError = true
        ∨ (500 ≤ status ∧ status < 600) ∧ options.retryOnServerError = true := by
  rw [allowsStatus]
  by_cases hmany : status = 429
  · simp [hmany]
  · by_cases hclient : 400 ≤ status ∧ status < 500
    · have hserver : ¬ (500 ≤ status ∧ status < 600) := by omega
      simp [hmany, hclient, hserver]
    · by_cases hserver : 500 ≤ status ∧ status < 600 <;> simp [hmany, hclient, hserver]

/-- The tests in their order accept for the five reasons. -/
theorem allowsHttp_eq_true_iff : options.allowsHttp http = true ↔ options.Accepts http := by
  rw [allowsHttp]
  constructor
  · intro hallows
    by_cases htimeout : http.isTimeout = true
    · rw [if_pos htimeout] at hallows
      exact .timeout htimeout hallows
    · rw [if_neg htimeout] at hallows
      have hintime := Bool.eq_false_iff.mpr htimeout
      by_cases hconnect : http.isConnect = true
      · rw [if_pos hconnect] at hallows
        exact .connect hintime hconnect hallows
      · rw [if_neg hconnect, Option.any_eq_true] at hallows
        have hconnected := Bool.eq_false_iff.mpr hconnect
        obtain ⟨status, hstatus, hallows⟩ := hallows
        rcases allowsStatus_eq_true_iff.mp hallows with rfl | ⟨hrange, hon⟩ | ⟨hrange, hon⟩
        · exact .tooManyRequests hintime hconnected hstatus
        · exact .clientError hintime hconnected hstatus hrange hon
        · exact .serverError hintime hconnected hstatus hrange hon
  · intro haccepts
    cases haccepts with
    | timeout htimeout hon => rw [if_pos htimeout, hon]
    | connect hintime hconnect hon => simp [hintime, hconnect, hon]
    | tooManyRequests hintime hconnected hstatus =>
        simp [hintime, hconnected, hstatus, allowsStatus_eq_true_iff]
    | clientError hintime hconnected hstatus hrange hon =>
        simp [hintime, hconnected, hstatus, allowsStatus_eq_true_iff, hrange, hon]
    | serverError hintime hconnected hstatus hrange hon =>
        simp [hintime, hconnected, hstatus, allowsStatus_eq_true_iff, hrange, hon]

/-- A reason to accept stays one when options are turned on. -/
theorem Accepts.widened (h : options.Accepts http) (hwider : options.Widened wider) :
    wider.Accepts http := by
  cases h with
  | timeout htimeout hon => exact .timeout htimeout (hwider.timeout hon)
  | connect hintime hconnect hon => exact .connect hintime hconnect (hwider.connect hon)
  | tooManyRequests hintime hconnected hstatus =>
      exact .tooManyRequests hintime hconnected hstatus
  | clientError hintime hconnected hstatus hrange hon =>
      exact .clientError hintime hconnected hstatus hrange (hwider.clientError hon)
  | serverError hintime hconnected hstatus hrange hon =>
      exact .serverError hintime hconnected hstatus hrange (hwider.serverError hon)

/-- The verdict depends on the report that the walk finds, and on nothing else of the failure. -/
theorem allows_congr (options : HttpOptions) (hsame : failure.http? = failure'.http?) :
    options.allows failure = options.allows failure' :=
  congrArg (Option.any options.allowsHttp) hsame

theorem allows_of_outermost (options : HttpOptions) (houtermost : failure.Outermost http) :
    options.allows failure = options.allowsHttp http := by
  rw [allows, Failure.http?_eq_some_iff.mpr houtermost, Option.any_some]

theorem allows_of_foreign (options : HttpOptions) (hnone : ¬ ∃ http, failure.Outermost http) :
    options.allows failure = false := by
  have hnotFound : failure.http? = none :=
    Option.eq_none_iff_forall_ne_some.mpr fun http hfound =>
      hnone ⟨http, Failure.http?_eq_some_iff.mp hfound⟩
  rw [allows, hnotFound, Option.any_none]

theorem allows_widened (hwider : options.Widened wider) (hallows : options.allows failure = true) :
    wider.allows failure = true := by
  rw [allows, Option.any_eq_true] at hallows ⊢
  obtain ⟨http, hfound, haccepted⟩ := hallows
  exact ⟨http, hfound,
    allowsHttp_eq_true_iff.mpr ((allowsHttp_eq_true_iff.mp haccepted).widened hwider)⟩

/-- **The outermost HTTP failure decides.** Its verdict is that of the whole chain, and without one
the failure is rejected. Links of other kinds around a failure change nothing, and neither does what
lies below a link that an HTTP client reported. Too many requests (429) are accepted under all
options, and to turn options on never rejects what was accepted. -/
theorem allows_outermost (options : HttpOptions) (failure : Failure) :
    (∀ http, failure.Outermost http → options.allows failure = options.allowsHttp http)
      ∧ ((¬ ∃ http, failure.Outermost http) → options.allows failure = false)
      ∧ (∀ links : List Link, (∀ link ∈ links, link.Foreign) →
        options.allows (failure.wrapAll links) = options.allows failure)
      ∧ (¬ failure.link.Foreign → ∀ links causes : List Link,
        options.allows (Failure.wrapAll links ⟨failure.link, causes⟩)
          = options.allows (failure.wrapAll links))
      ∧ (∀ http, failure.link.http = some http → http.Consistent → http.status = some 429 →
        ∀ links : List Link, (∀ link ∈ links, link.Foreign) →
          options.allows (failure.wrapAll links) = true)
      ∧ ∀ wider, options.Widened wider → options.allows failure = true →
        wider.allows failure = true := by
  refine ⟨fun http => allows_of_outermost options, allows_of_foreign options, ?_, ?_, ?_,
    fun wider => allows_widened⟩
  · intro links hforeign
    exact options.allows_congr (Failure.http?_wrapAll_foreign hforeign failure)
  · intro hreported links causes
    obtain ⟨http, hhttp⟩ := Option.ne_none_iff_exists'.mp hreported
    have hcut : Failure.http? ⟨failure.link, causes⟩ = some http := Failure.http?_of_reported hhttp
    have hsame := hcut.trans (Failure.http?_of_reported hhttp).symm
    exact options.allows_congr (Failure.http?_wrapAll_congr links hsame)
  · intro http hhttp hconsistent hstatus links hforeign
    obtain ⟨hintime, hconnected⟩ := hconsistent (by rw [hstatus]; nofun)
    calc options.allows (failure.wrapAll links)
        = options.allows failure :=
          options.allows_congr (Failure.http?_wrapAll_foreign hforeign failure)
      _ = options.allowsHttp http :=
          options.allows_of_outermost
            (Failure.http?_eq_some_iff.mp (Failure.http?_of_reported hhttp))
      _ = true := allowsHttp_eq_true_iff.mpr (.tooManyRequests hintime hconnected hstatus)

/-- Too many requests with a timeout below them, in two links of other kinds and with all options
off. A failure that no HTTP client reported is rejected. -/
theorem allows_outermost_of_wrapped :
    let options : HttpOptions := ⟨false, false, false, false⟩
    let http : HttpFailure := ⟨false, false, some 429⟩
    let failure : Failure :=
      ⟨⟨"http 429", "http 429", some http⟩, [⟨"Late", "late", some ⟨true, false, none⟩⟩]⟩
    let plain : Failure := ⟨⟨"Broken", "broken", none⟩, []⟩
    let links : List Link := [⟨"Outer", "outer", none⟩, ⟨"Inner", "inner", none⟩]
    let bare : Failure := ⟨failure.link, []⟩
    (failure.Outermost http ∧ options.allows failure = options.allowsHttp http)
      ∧ ((¬ ∃ http, plain.Outermost http) ∧ options.allows plain = false)
      ∧ ((∀ link ∈ links, link.Foreign)
        ∧ options.allows (failure.wrapAll links) = options.allows failure)
      ∧ (¬ failure.link.Foreign
        ∧ options.allows (bare.wrapAll links) = options.allows (failure.wrapAll links))
      ∧ (http.Consistent ∧ http.status = some 429
        ∧ options.allows (failure.wrapAll links) = true)
      ∧ options.Widened {} ∧ options.allows failure = true
        ∧ HttpOptions.allows {} failure = true := by
  intro options http failure plain links bare
  have houtermost : failure.Outermost http := .reported rfl
  have hnone : ¬ ∃ http, plain.Outermost http := by
    rintro ⟨other, hother⟩
    cases Failure.http?_eq_some_iff.mpr hother
  have hforeign : ∀ link ∈ links, link.Foreign := by
    simp [links, Link.Foreign]
  have hreported : ¬ failure.link.Foreign := nofun
  have hconsistent : http.Consistent := fun _ => ⟨rfl, rfl⟩
  have hwider : options.Widened {} := ⟨nofun, nofun, nofun, nofun⟩
  have hallows : options.allows failure = true := by decide
  obtain ⟨hdecides, _, hwrapped, hcut, hmany, hwidened⟩ := allows_outermost options failure
  exact ⟨⟨houtermost, hdecides http houtermost⟩,
    ⟨hnone, (allows_outermost options plain).2.1 hnone⟩, ⟨hforeign, hwrapped links hforeign⟩,
    ⟨hreported, hcut hreported links []⟩,
    ⟨hconsistent, rfl, hmany http rfl hconsistent rfl links hforeign⟩,
    hwider, hallows, hwidened {} hwider hallows⟩

end HttpOptions

end Retry
