import CarCatalog.Account
import CarCatalog.Form
import CarCatalog.View.Parts

/-!
# The sign-in form

While a request is under way the form is busy: its button is disabled, and submitting does nothing.
-/

namespace CarCatalog

structure LoginForm where
  username : String
  password : String
  info : String
  busy : Bool
  deriving DecidableEq, Repr

namespace LoginForm

def blank : LoginForm := ⟨"", "", "", false⟩

inductive Msg
  | username (value : String)
  | password (value : String)
  | submit
  deriving DecidableEq, Repr

def submitLabel (busy : Bool) : String := if busy then "Signing in..." else "Sign in"

/-- The form after a message, and the credentials to send if it was accepted. -/
def update (f : LoginForm) : Msg → LoginForm × Option SignIn
  | .username value => ({ f with username := value }, none)
  | .password value => ({ f with password := value }, none)
  | .submit =>
    if f.busy then (f, none)
    else
      match Form.signIn f.username f.password with
      | .error e => ({ f with info := e.message }, none)
      | .ok credentials => ({ f with busy := true, info := "" }, some credentials)

/-- The form after the answer: signed in, or why not. -/
def answered (f : LoginForm) : Except String Unit → LoginForm
  | .ok _ => { f with password := "", busy := false }
  | .error message => { f with info := message, busy := false }

def view (f : LoginForm) : Node Msg :=
  .el "div" "login-page" [
    .el "div" "login-card" (
      [.plain "h1" [.text "Car Catalog"],
        .el "p" "login-card__subtitle" [.text "Sign in to continue"],
        .form "login-form" .submit [
          .field "login-input" [("type", .text "text"), ("autocomplete", .text "username")]
            "Username" f.username .username,
          .field "login-input"
            [("type", .text "password"), ("autocomplete", .text "current-password")]
            "Password" f.password .password,
          .element "button"
            ([("class", .text "login-button"), ("type", .text "submit")] ++
              if f.busy then [("disabled", .flag)] else [])
            .none [.text (submitLabel f.busy)]]] ++
      Node.notice "login-message" f.info)]

end LoginForm

/-- What the answer to a sign-in makes of an account. -/
def Account.signIn (a : Account) : Except Api.Failure Token → Except String Unit × Account
  | .error f => (.error f.signInMessage, a)
  | .ok token =>
    match a.login token.access with
    | (.ok _, a) => (.ok (), a)
    | (.error fault, a) => (.error (LoginError.rejected fault).formMessage, a)

end CarCatalog
