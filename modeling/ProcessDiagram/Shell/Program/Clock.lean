import ProcessDiagram.Shell.Utility

/-! Dates, and the program that shows them. -/
namespace ProcessDiagram.Shell.Utility

open ProcessDiagram.Shell.Action

def civil (days : Int) : Int × Nat × Nat :=
  let z := days + 719468
  let era := z.fdiv 146097
  let doe := (z - era * 146097).toNat
  let yoe := (doe - doe / 1460 + doe / 36524 - doe / 146096) / 365
  let doy := doe - (365 * yoe + yoe / 4 - yoe / 100)
  let mp := (5 * doy + 2) / 153
  let month := if mp < 10 then mp + 3 else mp - 9
  (yoe + era * 400 + (if month ≤ 2 then 1 else 0), month, doy - (153 * mp + 2) / 5 + 1)

def dayNumber (year : Int) (month day : Nat) : Int :=
  let y := if month ≤ 2 then year - 1 else year
  let era := y.fdiv 400
  let yoe := (y - era * 400).toNat
  let doy := (153 * (if 2 < month then month - 3 else month + 9) + 2) / 5 + day - 1
  era * 146097 + (yoe * 365 + yoe / 4 - yoe / 100 + doy : Nat) - 719468

def dayNames : List String := ["Sunday", "Monday", "Tuesday", "Wednesday", "Thursday", "Friday", "Saturday"]

def monthNames : List String :=
  ["January", "February", "March", "April", "May", "June", "July", "August", "September", "October", "November",
    "December"]

def timeText (seconds : Int) : Nat → List Char → String
  | n + 1, '%' :: c :: rest =>
    let (year, month, day) := civil (seconds.fdiv 86400)
    let ofDay := (seconds.fmod 86400).toNat
    let two (k : Nat) : String := toRight 2 (toString k) |>.replace " " "0"
    let weekday := ((seconds.fdiv 86400 + 4).fmod 7).toNat
    let yearDay := (dayNumber year month day - dayNumber year 1 1 + 1).toNat
    let shown : String := match c with
      | 'Y' => toString year
      | 'm' => two month
      | 'd' => two day
      | 'e' => toRight 2 (toString day)
      | 'H' => two (ofDay / 3600)
      | 'I' => two ((ofDay / 3600 + 11) % 12 + 1)
      | 'M' => two (ofDay / 60 % 60)
      | 'S' => two (ofDay % 60)
      | 'N' => "000000000"
      | 'y' => two (year.fmod 100).toNat
      | 'C' => two (year.fdiv 100).toNat
      | 'j' => (toRight 3 (toString yearDay)).replace " " "0"
      | 's' => toString seconds
      | 'F' => timeText seconds n "%Y-%m-%d".toList
      | 'T' => timeText seconds n "%H:%M:%S".toList
      | 'R' => timeText seconds n "%H:%M".toList
      | 'D' => timeText seconds n "%m/%d/%y".toList
      | 'c' => timeText seconds n "%a %b %e %H:%M:%S %Y".toList
      | 'a' => String.ofList ((dayNames.getD weekday "").toList.take 3)
      | 'A' => dayNames.getD weekday ""
      | 'b' => String.ofList ((monthNames.getD (month - 1) "").toList.take 3)
      | 'h' => String.ofList ((monthNames.getD (month - 1) "").toList.take 3)
      | 'B' => monthNames.getD (month - 1) ""
      | 'p' => if ofDay < 43200 then "AM" else "PM"
      | 'u' => toString (if weekday = 0 then 7 else weekday)
      | 'w' => toString weekday
      | 'Z' => "UTC"
      | 'z' => "+0000"
      | 'n' => "\n"
      | 't' => "\t"
      | '%' => "%"
      | _ => String.ofList ['%', c]
    shown ++ timeText seconds n rest
  | n + 1, c :: rest => String.singleton c ++ timeText seconds n rest
  | _, _ => ""

/-- The time that a text names: seconds after an at sign, or a date. -/
def timeOf? (text : String) : Option Int :=
  match text.toList with
  | '@' :: rest => (String.ofList rest).toInt?
  | _ =>
    match text.splitOn "-" with
    | [y, m, d] => do
      let (day, clock) := match (d.replace "T" " ").splitOn " " with
        | [day, clock] => (day, clock)
        | _ => (d, "0:0:0")
      let parts := (clock.splitOn ":").map fun p => p.toNat?.getD 0
      return dayNumber (← y.toInt?) (← m.toNat?) (← day.toNat?) * 86400 + (parts.getD 0 0) * 3600 + (parts.getD 1 0) * 60 +
        (parts.getD 2 0)
    | _ => none

def startTime : Int := 1735732800

def date : Utility := fun words =>
  withOptions { letters := "d:uI::Rr:s:f:", names := [("date", 'd'), ("utc", 'u'), ("universal", 'u'),
    ("iso-8601", 'I'), ("rfc-email", 'R')] } (hint 1) words fun o => do
      let given := (o.value? 'd').map fun text => (text, timeOf? text)
      match given with
      | some (text, none) =>
        warn ("invalid date " ++ Quoting.word text)
        return 1
      | _ =>
        let seconds := (given.bind (·.2)).getD (startTime + ((← get).clock / 1000 : Nat))
        let format := match o.words with
          | word :: _ => if word.startsWith "+" then String.ofList word.toList.tail else word
          | [] => if o.has 'I' then "%F" else if o.has 'R' then "%a, %d %b %Y %T %z" else "%a %b %e %H:%M:%S %Z %Y"
        emit 1 (timeText seconds (format.length + 20) format.toList ++ "\n")
        return 0

end ProcessDiagram.Shell.Utility
