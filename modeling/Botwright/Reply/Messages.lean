import Botwright.Locale

/-!
The replies that a generated bot gives by itself.
-/
namespace Botwright.Reply

/-- The fixed replies in one language. -/
structure Messages where
  /-- The command's API profile is missing. -/
  notConfigured : String
  /-- The request or the treatment of its response failed. -/
  requestFailed : String
  /-- None of the mapped fields had a value. -/
  noData : String
  unknownCommand : String
  deriving DecidableEq, Repr

def Messages.japanese : Messages where
  notConfigured := "APIプロファイルが設定されていません。"
  requestFailed := "エラーが発生しました。もう一度お試しください。"
  noData := "表示できるデータがありません。"
  unknownCommand := "不明なコマンドです。"

def Messages.english : Messages where
  notConfigured := "API profile not configured."
  requestFailed := "Something went wrong. Please try again."
  noData := "No data to display."
  unknownCommand := "Unknown command."

/-- The fixed replies in a language. -/
def Messages.of : Locale → Messages
  | .japanese => Messages.japanese
  | .english => Messages.english

end Botwright.Reply
