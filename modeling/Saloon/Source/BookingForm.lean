import Saloon.Source.Php

/-!
# The public booking form

`book.html:126-153` (the `state`, and the lists that the page has loaded),
`book.html:182-232` (the chips, `init`) and `book.html:234-310` (`submitForm`,
`resetForm`): what is chosen, and what is sent for it.
-/
namespace Saloon.Source

/-- JavaScript's truth; unlike PHP's it takes the text "0" for true. -/
def Val.jsTruthy : Val → Bool
  | null => false
  | bool b => b
  | int n => n ≠ 0
  | float q => q ≠ 0
  | str s => s ≠ ""
  | arr _ => true

/-- `v || null`. -/
def Val.orNull (v : Val) : Val := if v.jsTruthy then v else .null

/-- The `state` of the page; a chosen id is null before there is one, and for "First available". -/
structure BookingPage where
  serviceId : Val
  staffId : Val
  time : String
  services : List Val
  staff : List Val

/-- The values of the inputs, trimmed where `submitForm` trims them. -/
structure FormInputs where
  name : String
  phone : String
  email : String
  date : String
  notes : String

inductive Submission where
  | showErr (message : String)
  | send (body : Val)

inductive Chip where
  | service (i : Nat)
  | stylist (i : Nat)
  | time (i : Nat)
  | bookAnother

namespace BookingPage

def times : List String := ["09:30", "11:00", "13:30", "15:00", "16:30", "18:00"]

def fallbackService (id : Int) (name : String) (price : Int) : Val :=
  .arr [("id", .int id), ("name", .str name), ("price", .int price)]

/-- The services of the page; an answer is a list that came with a good status. -/
def loadServices (answer : Option (List Val)) : List Val :=
  match answer with
  | some (d :: ds) => d :: ds
  | _ => [fallbackService 1 "Sculpted Cut" 120, fallbackService 2 "Light Colour" 180,
      fallbackService 3 "Finish & Form" 90, fallbackService 4 "Full Transformation" 320]

def loadStaff (answer : Option (List Val)) : List Val := answer.getD []

/-- `state.services[0].id`. -/
def firstService (services : List Val) : Val :=
  match services with
  | [] => .null
  | svc :: _ => svc.field "id"

/-- `init`, with the answers of the two requests. -/
def init (services staff : Option (List Val)) : BookingPage where
  serviceId := firstService (loadServices services)
  staffId := .null
  time := ""
  services := loadServices services
  staff := loadStaff staff

/-- A click on a chip; the first one of the stylists is "First available". -/
def click (page : BookingPage) : Chip → BookingPage
  | .service i =>
    match page.services[i]? with
    | some svc => { page with serviceId := svc.field "id" }
    | none => page
  | .stylist 0 => { page with staffId := .null }
  | .stylist (i + 1) =>
    match page.staff[i]? with
    | some st => { page with staffId := st.field "id" }
    | none => page
  | .time i =>
    match times[i]? with
    | some time => { page with time }
    | none => page
  | .bookAnother =>
    { page with time := "", serviceId := (firstService page.services).orNull, staffId := .null }

def payload (page : BookingPage) (inputs : FormInputs) (staffId : Val) : Val :=
  .arr [("client_name", .str inputs.name), ("client_phone", .str inputs.phone),
    ("client_email", .str inputs.email), ("staff_id", staffId), ("service_id", page.serviceId),
    ("date", .str inputs.date), ("time", .str page.time), ("notes", .str inputs.notes),
    ("client_type", .str "pre-booked")]

def submitForm (page : BookingPage) (inputs : FormInputs) : Submission :=
  if !page.serviceId.jsTruthy then .showErr "Please select a service."
  else if inputs.date = "" then .showErr "Please choose a date."
  else if page.time = "" then .showErr "Please choose a time."
  else if inputs.name = "" then .showErr "Please add your name."
  else if inputs.phone = "" then .showErr "Please add your phone number."
  else if !page.staffId.jsTruthy then
    -- "If "First available" chosen, use first staff from list"
    match page.staff with
    | st :: _ => .send (page.payload inputs (st.field "id"))
    | [] => .showErr
        "Unable to load stylists. Please refresh the page or call us directly."
  else .send (page.payload inputs page.staffId)

/-- What is sent with the stylist left at "First available" names the first of the list. -/
theorem submitForm_first {page : BookingPage} {inputs : FormInputs} {body : Val}
    (unchosen : page.staffId = .null) (sent : page.submitForm inputs = .send body) :
    ∃ st, page.staff.head? = some st ∧ body = page.payload inputs (st.field "id") := by
  unfold submitForm at sent
  iterate 5
    split at sent
    · cases sent
  rw [if_pos (by rw [unchosen]; rfl)] at sent
  split at sent
  · rename_i st rest lists
    cases sent
    exact ⟨st, by rw [lists]; rfl, rfl⟩
  · cases sent

/-- No click changes the lists. -/
theorem click_lists (page : BookingPage) (chip : Chip) :
    (page.click chip).services = page.services ∧ (page.click chip).staff = page.staff := by
  unfold click
  split
  · split <;> exact ⟨rfl, rfl⟩
  · exact ⟨rfl, rfl⟩
  · split <;> exact ⟨rfl, rfl⟩
  · split <;> exact ⟨rfl, rfl⟩
  · exact ⟨rfl, rfl⟩

end BookingPage

end Saloon.Source
