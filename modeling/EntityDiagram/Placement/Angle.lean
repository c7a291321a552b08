namespace EntityDiagram

/-- One degree as an arc of the unit circle. -/
def degree : Float := 3.141592653589793 / 180

def roundToThousandth (x : Float) : Float := (x * 1000).round / 1000

def cosDegrees (angle : Float) : Float := roundToThousandth (angle * degree).cos

def sinDegrees (angle : Float) : Float := roundToThousandth (angle * degree).sin

end EntityDiagram
