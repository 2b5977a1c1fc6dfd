import TableForge.Marker
import TableForge.Text.Lines

namespace TableForge.Dump

def banner (sourceName : String) : String := Text.unlines [
  "-- NOTE:",
  "-- This file has been AUTO GENERATED from " ++ sourceName,
  "-- All translation markers have been removed.",
  "-- This file can be used to manually generate a database.",
  ""]

def render (sourceName source : String) : String := banner sourceName ++ Marker.cleanText source

end TableForge.Dump
