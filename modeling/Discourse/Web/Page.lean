import Discourse.Snapshot
import Discourse.Text.Markup

/-!
# Pages

The two pages of the web front end: the command form with the latest answer, and the transcript.
Whatever was said is escaped, so a page has no markup but its own.

* `Page.answer` and `Page.transcript`: the pages.
-/

namespace Discourse.Web.Page

/-- What stands before the answer. -/
def answerHead : String :=
  "<html>\n" ++
  "  <head>\n" ++
  "    <title>GOGAR</title>\n" ++
  "  </head>\n" ++
  "  <body>\n" ++
  "    <form action=\"/\" method=\"post\">\n" ++
  "      <p><label for=\"command\">Command</label><br/>\n" ++
  "      <input type=\"text\" name=\"command\" id=\"command\" size=\"40\" autofocus/></p>\n" ++
  "    </form>\n" ++
  "    <pre>"

/-- What stands after the answer. -/
def answerFoot : String :=
  "</pre>\n" ++
  "    <a href=\"/?transcript\">Full transcript of session</a>\n" ++
  "  </body>\n" ++
  "</html>"

/-- The page with the command form and an answer. -/
def answer (text : Text) : Text := answerHead ++ Text.escape text ++ answerFoot

/-- What stands before the entries. -/
def transcriptHead : String :=
  "<html>\n" ++
  "  <head>\n" ++
  "    <title>GOGAR Transcript</title>\n" ++
  "  </head>\n" ++
  "  <body>\n" ++
  "    <h2>Transcript</h2>\n" ++
  "    <a href=\"/\">Back to GOGAR</a>\n" ++
  "    <pre>"

/-- What stands after the entries. -/
def transcriptFoot : String :=
  "</pre>\n" ++
  "  </body>\n" ++
  "</html>"

/-- One entry: the command in bold, then the answer. -/
def entry (e : Exchange) : Text :=
  "\n<b>" ++ Text.escape e.input ++ "</b>\n\n" ++ Text.escape e.output ++ "\n"

/-- The page with everything that was said. -/
def transcript (exchanges : List Exchange) : Text :=
  transcriptHead ++ Text.join (exchanges.map entry) ++ transcriptFoot

end Discourse.Web.Page
