/-!
# Histories of zones

The eras of each zone of the time zone database, one on each line after the name of the zone:
standard offset, daylight saving (an amount, the name of rules, or a hyphen for none), and year,
month, day and time of the ending.
-/

namespace CronHeatMap.Zone.Data

/-- The histories of zones. -/
def eras : String := "Zone Africa/Abidjan
-0:16:08 - 1912
0:00 -
Zone Africa/Algiers
0:12:12 - 1891 Mar 16
0:09:21 - 1911 Mar 11
0:00 d 1940 Feb 25 2:00
1:00 d 1946 Oct 7
0:00 - 1956 Jan 29
1:00 - 1963 Apr 14
0:00 d 1977 Oct 21
1:00 d 1979 Oct 26
0:00 d 1981 May
1:00 -
Zone Africa/Bissau
-1:02:20 - 1912 Jan 1 1:00u
-1:00 - 1975
0:00 -
Zone Africa/Cairo
2:05:09 - 1900 Oct
2:00 K
Zone Africa/Casablanca
-0:30:20 - 1913 Oct 26
0:00 M 1984 Mar 16
1:00 - 1986
0:00 M 2018 Oct 28 3:00
0:00 M
Zone Africa/Ceuta
-0:21:16 - 1901 Jan 1 0:00u
0:00 - 1918 May 6 23:00
0:00 1:00 1918 Oct 7 23:00
0:00 - 1924
0:00 s 1929
0:00 - 1967
0:00 Sp 1984 Mar 16
1:00 - 1986
1:00 E
Zone Africa/El_Aaiun
-0:52:48 - 1934
-1:00 - 1976 Apr 14
0:00 M 2018 Oct 28 3:00
0:00 M
Zone Africa/Johannesburg
1:52 - 1892 Feb 8
1:30 - 1903 Mar
2:00 SA
Zone Africa/Juba
2:06:28 - 1931
2:00 SD 2000 Jan 15 12:00
3:00 - 2021 Feb
2:00 -
Zone Africa/Khartoum
2:10:08 - 1931
2:00 SD 2000 Jan 15 12:00
3:00 - 2017 Nov
2:00 -
Zone Africa/Lagos
0:13:35 - 1905 Jul
0:00 - 1908 Jul
0:13:35 - 1914
0:30 - 1919 Sep
1:00 -
Zone Africa/Maputo
2:10:18 - 1909
2:00 -
Zone Africa/Monrovia
-0:43:08 - 1882
-0:43:08 - 1919 Mar
-0:44:30 - 1972 Jan 7
0:00 -
Zone Africa/Nairobi
2:27:16 - 1908 May
2:30 - 1928 Jun 30 24:00
3:00 - 1930 Jan 4 24:00
2:30 - 1936 Dec 31 24:00
2:45 - 1942 Jul 31 24:00
3:00 -
Zone Africa/Ndjamena
1:00:12 - 1912
1:00 - 1979 Oct 14
1:00 1:00 1980 Mar 8
1:00 -
Zone Africa/Sao_Tome
0:26:56 - 1884
-0:36:45 - 1912 Jan 1 0:00u
0:00 - 2018 Jan 1 1:00
1:00 - 2019 Jan 1 2:00
0:00 -
Zone Africa/Tripoli
0:52:44 - 1920
1:00 L 1959
2:00 - 1982
1:00 L 1990 May 4
2:00 - 1996 Sep 30
1:00 L 1997 Oct 4
2:00 - 2012 Nov 10 2:00
1:00 L 2013 Oct 25 2:00
2:00 -
Zone Africa/Tunis
0:40:44 - 1881 May 12
0:09:21 - 1911 Mar 11
1:00 n
Zone Africa/Windhoek
1:08:24 - 1892 Feb 8
1:30 - 1903 Mar
2:00 - 1942 Sep 20 2:00
2:00 1:00 1943 Mar 21 2:00
2:00 - 1990 Mar 21
2:00 - 1994 Mar 21
1:00 NA 2017 Oct 24
2:00 -
Zone America/Adak
12:13:22 - 1867 Oct 19 12:44:35
-11:46:38 - 1900 Aug 20 12:00
-11:00 - 1942
-11:00 u 1946
-11:00 - 1967 Apr
-11:00 - 1969
-11:00 u 1983 Oct 30 2:00
-10:00 u 1983 Nov 30
-10:00 u
Zone America/Anchorage
14:00:24 - 1867 Oct 19 14:31:37
-9:59:36 - 1900 Aug 20 12:00
-10:00 - 1942
-10:00 u 1967 Apr
-10:00 - 1969
-10:00 u 1983 Oct 30 2:00
-9:00 u 1983 Nov 30
-9:00 u
Zone America/Araguaina
-3:12:48 - 1914
-3:00 B 1990 Sep 17
-3:00 - 1995 Sep 14
-3:00 B 2003 Sep 24
-3:00 - 2012 Oct 21
-3:00 B 2013 Sep
-3:00 -
Zone America/Argentina/Buenos_Aires
-3:53:48 - 1894 Oct 31
-4:16:48 - 1920 May
-4:00 - 1930 Dec
-4:00 A 1969 Oct 5
-3:00 A 1999 Oct 3
-4:00 A 2000 Mar 3
-3:00 A
Zone America/Argentina/Catamarca
-4:23:08 - 1894 Oct 31
-4:16:48 - 1920 May
-4:00 - 1930 Dec
-4:00 A 1969 Oct 5
-3:00 A 1991 Mar 3
-4:00 - 1991 Oct 20
-3:00 A 1999 Oct 3
-4:00 A 2000 Mar 3
-3:00 - 2004 Jun
-4:00 - 2004 Jun 20
-3:00 A 2008 Oct 18
-3:00 -
Zone America/Argentina/Cordoba
-4:16:48 - 1894 Oct 31
-4:16:48 - 1920 May
-4:00 - 1930 Dec
-4:00 A 1969 Oct 5
-3:00 A 1991 Mar 3
-4:00 - 1991 Oct 20
-3:00 A 1999 Oct 3
-4:00 A 2000 Mar 3
-3:00 A
Zone America/Argentina/Jujuy
-4:21:12 - 1894 Oct 31
-4:16:48 - 1920 May
-4:00 - 1930 Dec
-4:00 A 1969 Oct 5
-3:00 A 1990 Mar 4
-4:00 - 1990 Oct 28
-4:00 1:00 1991 Mar 17
-4:00 - 1991 Oct 6
-3:00 1:00 1992
-3:00 A 1999 Oct 3
-4:00 A 2000 Mar 3
-3:00 A 2008 Oct 18
-3:00 -
Zone America/Argentina/La_Rioja
-4:27:24 - 1894 Oct 31
-4:16:48 - 1920 May
-4:00 - 1930 Dec
-4:00 A 1969 Oct 5
-3:00 A 1991 Mar
-4:00 - 1991 May 7
-3:00 A 1999 Oct 3
-4:00 A 2000 Mar 3
-3:00 - 2004 Jun
-4:00 - 2004 Jun 20
-3:00 A 2008 Oct 18
-3:00 -
Zone America/Argentina/Mendoza
-4:35:16 - 1894 Oct 31
-4:16:48 - 1920 May
-4:00 - 1930 Dec
-4:00 A 1969 Oct 5
-3:00 A 1990 Mar 4
-4:00 - 1990 Oct 15
-4:00 1:00 1991 Mar
-4:00 - 1991 Oct 15
-4:00 1:00 1992 Mar
-4:00 - 1992 Oct 18
-3:00 A 1999 Oct 3
-4:00 A 2000 Mar 3
-3:00 - 2004 May 23
-4:00 - 2004 Sep 26
-3:00 A 2008 Oct 18
-3:00 -
Zone America/Argentina/Rio_Gallegos
-4:36:52 - 1894 Oct 31
-4:16:48 - 1920 May
-4:00 - 1930 Dec
-4:00 A 1969 Oct 5
-3:00 A 1999 Oct 3
-4:00 A 2000 Mar 3
-3:00 - 2004 Jun
-4:00 - 2004 Jun 20
-3:00 A 2008 Oct 18
-3:00 -
Zone America/Argentina/Salta
-4:21:40 - 1894 Oct 31
-4:16:48 - 1920 May
-4:00 - 1930 Dec
-4:00 A 1969 Oct 5
-3:00 A 1991 Mar 3
-4:00 - 1991 Oct 20
-3:00 A 1999 Oct 3
-4:00 A 2000 Mar 3
-3:00 A 2008 Oct 18
-3:00 -
Zone America/Argentina/San_Juan
-4:34:04 - 1894 Oct 31
-4:16:48 - 1920 May
-4:00 - 1930 Dec
-4:00 A 1969 Oct 5
-3:00 A 1991 Mar
-4:00 - 1991 May 7
-3:00 A 1999 Oct 3
-4:00 A 2000 Mar 3
-3:00 - 2004 May 31
-4:00 - 2004 Jul 25
-3:00 A 2008 Oct 18
-3:00 -
Zone America/Argentina/San_Luis
-4:25:24 - 1894 Oct 31
-4:16:48 - 1920 May
-4:00 - 1930 Dec
-4:00 A 1969 Oct 5
-3:00 A 1990
-3:00 1:00 1990 Mar 14
-4:00 - 1990 Oct 15
-4:00 1:00 1991 Mar
-4:00 - 1991 Jun
-3:00 - 1999 Oct 3
-4:00 1:00 2000 Mar 3
-3:00 - 2004 May 31
-4:00 - 2004 Jul 25
-3:00 A 2008 Jan 21
-4:00 Sa 2009 Oct 11
-3:00 -
Zone America/Argentina/Tucuman
-4:20:52 - 1894 Oct 31
-4:16:48 - 1920 May
-4:00 - 1930 Dec
-4:00 A 1969 Oct 5
-3:00 A 1991 Mar 3
-4:00 - 1991 Oct 20
-3:00 A 1999 Oct 3
-4:00 A 2000 Mar 3
-3:00 - 2004 Jun
-4:00 - 2004 Jun 13
-3:00 A
Zone America/Argentina/Ushuaia
-4:33:12 - 1894 Oct 31
-4:16:48 - 1920 May
-4:00 - 1930 Dec
-4:00 A 1969 Oct 5
-3:00 A 1999 Oct 3
-4:00 A 2000 Mar 3
-3:00 - 2004 May 30
-4:00 - 2004 Jun 20
-3:00 A 2008 Oct 18
-3:00 -
Zone America/Asuncion
-3:50:40 - 1890
-3:50:40 - 1931 Oct 10
-4:00 - 1972 Oct
-3:00 - 1974 Apr
-4:00 y 2024 Oct 15
-3:00 -
Zone America/Bahia
-2:34:04 - 1914
-3:00 B 2003 Sep 24
-3:00 - 2011 Oct 16
-3:00 B 2012 Oct 21
-3:00 -
Zone America/Bahia_Banderas
-7:01 - 1922 Jan 1 7:00u
-7:00 - 1927 Jun 10
-6:00 - 1930 Nov 15
-7:00 m 1932 Apr
-6:00 - 1942 Apr 24
-7:00 - 1970
-7:00 m 2010 Apr 4 2:00
-6:00 m
Zone America/Barbados
-3:58:29 - 1911 Aug 28
-4:00 BB 1944
-4:00 BB 1945
-4:00 BB
Zone America/Belem
-3:13:56 - 1914
-3:00 B 1988 Sep 12
-3:00 -
Zone America/Belize
-5:52:48 - 1912 Apr
-6:00 BZ
Zone America/Boa_Vista
-4:02:40 - 1914
-4:00 B 1988 Sep 12
-4:00 - 1999 Sep 30
-4:00 B 2000 Oct 15
-4:00 -
Zone America/Bogota
-4:56:16 - 1884 Mar 13
-4:56:16 - 1914 Nov 23
-5:00 CO
Zone America/Boise
-7:44:49 - 1883 Nov 18 20:00u
-8:00 u 1923 May 13 2:00
-7:00 u 1974
-7:00 - 1974 Feb 3 2:00
-7:00 u
Zone America/Cambridge_Bay
0:00 - 1920
-7:00 Y 1999 Oct 31 2:00
-6:00 C 2000 Oct 29 2:00
-5:00 - 2000 Nov 5
-6:00 - 2001 Apr 1 3:00
-7:00 C
Zone America/Campo_Grande
-3:38:28 - 1914
-4:00 B
Zone America/Cancun
-5:47:04 - 1922 Jan 1 6:00u
-6:00 - 1981 Dec 26 2:00
-5:00 - 1983 Jan 4
-6:00 m 1997 Oct 26 2:00
-5:00 m 1998 Aug 2 2:00
-6:00 m 2015 Feb 1 2:00
-5:00 -
Zone America/Caracas
-4:27:44 - 1890
-4:27:40 - 1912 Feb 12
-4:30 - 1965
-4:00 - 2007 Dec 9 3:00
-4:30 - 2016 May 1 2:30
-4:00 -
Zone America/Cayenne
-3:29:20 - 1911 Jul
-4:00 - 1967 Oct
-3:00 -
Zone America/Chicago
-5:50:36 - 1883 Nov 18 18:00u
-6:00 u 1920
-6:00 Ch 1936 Mar 1 2:00
-5:00 - 1936 Nov 15 2:00
-6:00 Ch 1942
-6:00 u 1946
-6:00 Ch 1967
-6:00 u
Zone America/Chihuahua
-7:04:20 - 1922 Jan 1 7:00u
-7:00 - 1927 Jun 10
-6:00 - 1930 Nov 15
-7:00 m 1932 Apr
-6:00 - 1996
-6:00 m 1998
-6:00 - 1998 Apr Sun>=1 3:00
-7:00 m 2022 Oct 30 2:00
-6:00 -
Zone America/Ciudad_Juarez
-7:05:56 - 1922 Jan 1 7:00u
-7:00 - 1927 Jun 10
-6:00 - 1930 Nov 15
-7:00 m 1932 Apr
-6:00 - 1996
-6:00 m 1998
-6:00 - 1998 Apr Sun>=1 3:00
-7:00 m 2010
-7:00 u 2022 Oct 30 2:00
-6:00 - 2022 Nov 30
-7:00 u
Zone America/Costa_Rica
-5:36:13 - 1890
-5:36:13 - 1921 Jan 15
-6:00 CR
Zone America/Coyhaique
-4:48:16 - 1890
-4:42:45 - 1910 Jan 10
-5:00 - 1916 Jul
-4:42:45 - 1918 Sep 10
-4:00 - 1919 Jul
-4:42:45 - 1927 Sep
-5:00 x 1932 Sep
-4:00 - 1942 Jun
-5:00 - 1942 Aug
-4:00 - 1946 Aug 28 24:00
-5:00 1:00 1947 Mar 31 24:00
-5:00 - 1947 May 21 23:00
-4:00 x 2025 Mar 20
-3:00 -
Zone America/Cuiaba
-3:44:20 - 1914
-4:00 B 2003 Sep 24
-4:00 - 2004 Oct
-4:00 B
Zone America/Danmarkshavn
-1:14:40 - 1916 Jul 28
-3:00 - 1980 Apr 6 2:00
-3:00 E 1996
0:00 -
Zone America/Dawson
-9:17:40 - 1900 Aug 20
-9:00 Y 1965
-9:00 Yu 1973 Oct 28
-8:00 - 1980
-8:00 C 2020 Nov
-7:00 -
Zone America/Dawson_Creek
-8:00:56 - 1884
-8:00 C 1947
-8:00 Va 1972 Aug 30 2:00
-7:00 -
Zone America/Denver
-6:59:56 - 1883 Nov 18 19:00u
-7:00 u 1920
-7:00 De 1942
-7:00 u 1946
-7:00 De 1967
-7:00 u
Zone America/Detroit
-5:32:11 - 1905
-6:00 - 1915 May 15 2:00
-5:00 - 1942
-5:00 u 1946
-5:00 Dt 1967 Jun 14 0:01
-5:00 u 1969
-5:00 - 1973
-5:00 u 1975
-5:00 - 1975 Apr 27 2:00
-5:00 u
Zone America/Edmonton
-7:33:52 - 1906 Sep
-7:00 Ed 1987
-7:00 C
Zone America/Eirunepe
-4:39:28 - 1914
-5:00 B 1988 Sep 12
-5:00 - 1993 Sep 28
-5:00 B 1994 Sep 22
-5:00 - 2008 Jun 24
-4:00 - 2013 Nov 10
-5:00 -
Zone America/El_Salvador
-5:56:48 - 1921
-6:00 SV
Zone America/Fort_Nelson
-8:10:47 - 1884
-8:00 Va 1946
-8:00 - 1947
-8:00 Va 1987
-8:00 C 2015 Mar 8 2:00
-7:00 -
Zone America/Fortaleza
-2:34 - 1914
-3:00 B 1990 Sep 17
-3:00 - 1999 Sep 30
-3:00 B 2000 Oct 22
-3:00 - 2001 Sep 13
-3:00 B 2002 Oct
-3:00 -
Zone America/Glace_Bay
-3:59:48 - 1902 Jun 15
-4:00 C 1953
-4:00 H 1954
-4:00 - 1972
-4:00 H 1974
-4:00 C
Zone America/Goose_Bay
-4:01:40 - 1884
-3:30:52 - 1918
-3:30:52 C 1919
-3:30:52 - 1935 Mar 30
-3:30 - 1936
-3:30 j 1942 May 11
-3:30 C 1946
-3:30 j 1966 Mar 15 2:00
-4:00 j 2011 Nov
-4:00 C
Zone America/Grand_Turk
-4:44:32 - 1890
-5:07:10 - 1912 Feb
-5:00 - 1979
-5:00 u 2015 Mar 8 2:00
-4:00 - 2018 Mar 11 3:00
-5:00 u
Zone America/Guatemala
-6:02:04 - 1918 Oct 5
-6:00 GT
Zone America/Guayaquil
-5:19:20 - 1890
-5:14 - 1931
-5:00 EC
Zone America/Guyana
-3:52:39 - 1911 Aug
-4:00 - 1915 Mar
-3:45 - 1975 Aug
-3:00 - 1992 Mar 29 1:00
-4:00 -
Zone America/Halifax
-4:14:24 - 1902 Jun 15
-4:00 H 1918
-4:00 C 1919
-4:00 H 1942 Feb 9 2:00s
-4:00 C 1946
-4:00 H 1974
-4:00 C
Zone America/Havana
-5:29:28 - 1890
-5:29:36 - 1925 Jul 19 12:00
-5:00 Q
Zone America/Hermosillo
-7:23:52 - 1922 Jan 1 7:00u
-7:00 - 1927 Jun 10
-6:00 - 1930 Nov 15
-7:00 m 1932 Apr
-6:00 - 1942 Apr 24
-7:00 - 1996
-7:00 m 1999
-7:00 -
Zone America/Indiana/Indianapolis
-5:44:38 - 1883 Nov 18 18:00u
-6:00 u 1920
-6:00 In 1942
-6:00 u 1946
-6:00 In 1955 Apr 24 2:00
-5:00 - 1957 Sep 29 2:00
-6:00 - 1958 Apr 27 2:00
-5:00 - 1969
-5:00 u 1971
-5:00 - 2006
-5:00 u
Zone America/Indiana/Knox
-5:46:30 - 1883 Nov 18 18:00u
-6:00 u 1947
-6:00 St 1962 Apr 29 2:00
-5:00 - 1963 Oct 27 2:00
-6:00 u 1991 Oct 27 2:00
-5:00 - 2006 Apr 2 2:00
-6:00 u
Zone America/Indiana/Marengo
-5:45:23 - 1883 Nov 18 18:00u
-6:00 u 1951
-6:00 Ma 1961 Apr 30 2:00
-5:00 - 1969
-5:00 u 1974 Jan 6 2:00
-6:00 1:00 1974 Oct 27 2:00
-5:00 u 1976
-5:00 - 2006
-5:00 u
Zone America/Indiana/Petersburg
-5:49:07 - 1883 Nov 18 18:00u
-6:00 u 1955
-6:00 Pi 1965 Apr 25 2:00
-5:00 - 1966 Oct 30 2:00
-6:00 u 1977 Oct 30 2:00
-5:00 - 2006 Apr 2 2:00
-6:00 u 2007 Nov 4 2:00
-5:00 u
Zone America/Indiana/Tell_City
-5:47:03 - 1883 Nov 18 18:00u
-6:00 u 1946
-6:00 Pe 1964 Apr 26 2:00
-5:00 - 1967 Oct 29 2:00
-6:00 u 1969 Apr 27 2:00
-5:00 u 1971
-5:00 - 2006 Apr 2 2:00
-6:00 u
Zone America/Indiana/Vevay
-5:40:16 - 1883 Nov 18 18:00u
-6:00 u 1954 Apr 25 2:00
-5:00 - 1969
-5:00 u 1973
-5:00 - 2006
-5:00 u
Zone America/Indiana/Vincennes
-5:50:07 - 1883 Nov 18 18:00u
-6:00 u 1946
-6:00 V 1964 Apr 26 2:00
-5:00 - 1969
-5:00 u 1971
-5:00 - 2006 Apr 2 2:00
-6:00 u 2007 Nov 4 2:00
-5:00 u
Zone America/Indiana/Winamac
-5:46:25 - 1883 Nov 18 18:00u
-6:00 u 1946
-6:00 Pu 1961 Apr 30 2:00
-5:00 - 1969
-5:00 u 1971
-5:00 - 2006 Apr 2 2:00
-6:00 u 2007 Mar 11 2:00
-5:00 u
Zone America/Inuvik
0:00 - 1953
-8:00 Y 1979 Apr lastSun 2:00
-7:00 Y 1980
-7:00 C
Zone America/Iqaluit
0:00 - 1942 Aug
-5:00 Y 1999 Oct 31 2:00
-6:00 C 2000 Oct 29 2:00
-5:00 C
Zone America/Jamaica
-5:07:10 - 1890
-5:07:10 - 1912 Feb
-5:00 - 1974
-5:00 u 1984
-5:00 -
Zone America/Juneau
15:02:19 - 1867 Oct 19 15:33:32
-8:57:41 - 1900 Aug 20 12:00
-8:00 - 1942
-8:00 u 1946
-8:00 - 1969
-8:00 u 1980 Apr 27 2:00
-9:00 u 1980 Oct 26 2:00
-8:00 u 1983 Oct 30 2:00
-9:00 u 1983 Nov 30
-9:00 u
Zone America/Kentucky/Louisville
-5:43:02 - 1883 Nov 18 18:00u
-6:00 u 1921
-6:00 v 1942
-6:00 u 1946
-6:00 v 1961 Jul 23 2:00
-5:00 - 1968
-5:00 u 1974 Jan 6 2:00
-6:00 1:00 1974 Oct 27 2:00
-5:00 u
Zone America/Kentucky/Monticello
-5:39:24 - 1883 Nov 18 18:00u
-6:00 u 1946
-6:00 - 1968
-6:00 u 2000 Oct 29 2:00
-5:00 u
Zone America/La_Paz
-4:32:36 - 1890
-4:32:36 - 1931 Oct 15
-4:32:36 1:00 1932 Mar 21
-4:00 -
Zone America/Lima
-5:08:12 - 1890
-5:08:36 - 1908 Jul 28
-5:00 PE
Zone America/Los_Angeles
-7:52:58 - 1883 Nov 18 20:00u
-8:00 u 1946
-8:00 CA 1967
-8:00 u
Zone America/Maceio
-2:22:52 - 1914
-3:00 B 1990 Sep 17
-3:00 - 1995 Oct 13
-3:00 B 1996 Sep 4
-3:00 - 1999 Sep 30
-3:00 B 2000 Oct 22
-3:00 - 2001 Sep 13
-3:00 B 2002 Oct
-3:00 -
Zone America/Managua
-5:45:08 - 1890
-5:45:12 - 1934 Jun 23
-6:00 - 1973 May
-5:00 - 1975 Feb 16
-6:00 NI 1992 Jan 1 4:00
-5:00 - 1992 Sep 24
-6:00 - 1993
-5:00 - 1997
-6:00 NI
Zone America/Manaus
-4:00:04 - 1914
-4:00 B 1988 Sep 12
-4:00 - 1993 Sep 28
-4:00 B 1994 Sep 22
-4:00 -
Zone America/Martinique
-4:04:20 - 1890
-4:04:20 - 1911 May
-4:00 - 1980 Apr 6
-4:00 1:00 1980 Sep 28
-4:00 -
Zone America/Matamoros
-6:30 - 1922 Jan 1 6:00u
-6:00 - 1988
-6:00 u 1989
-6:00 m 2010
-6:00 u
Zone America/Mazatlan
-7:05:40 - 1922 Jan 1 7:00u
-7:00 - 1927 Jun 10
-6:00 - 1930 Nov 15
-7:00 m 1932 Apr
-6:00 - 1942 Apr 24
-7:00 - 1970
-7:00 m
Zone America/Menominee
-5:50:27 - 1885 Sep 18 12:00
-6:00 u 1946
-6:00 Me 1969 Apr 27 2:00
-5:00 - 1973 Apr 29 2:00
-6:00 u
Zone America/Merida
-5:58:28 - 1922 Jan 1 6:00u
-6:00 - 1981 Dec 26 2:00
-5:00 - 1982 Nov 2 2:00
-6:00 m
Zone America/Metlakatla
15:13:42 - 1867 Oct 19 15:44:55
-8:46:18 - 1900 Aug 20 12:00
-8:00 - 1942
-8:00 u 1946
-8:00 - 1969
-8:00 u 1983 Oct 30 2:00
-8:00 - 2015 Nov 1 2:00
-9:00 u 2018 Nov 4 2:00
-8:00 - 2019 Jan 20 2:00
-9:00 u
Zone America/Mexico_City
-6:36:36 - 1922 Jan 1 7:00u
-7:00 - 1927 Jun 10
-6:00 - 1930 Nov 15
-7:00 m 1932 Apr
-6:00 m 2001 Sep 30 2:00
-6:00 - 2002 Feb 20
-6:00 m
Zone America/Miquelon
-3:44:40 - 1911 Jun 15
-4:00 - 1980 May
-3:00 - 1987
-3:00 C
Zone America/Moncton
-4:19:08 - 1883 Dec 9
-5:00 - 1902 Jun 15
-4:00 C 1933
-4:00 o 1942
-4:00 C 1946
-4:00 o 1973
-4:00 C 1993
-4:00 o 2007
-4:00 C
Zone America/Monterrey
-6:41:16 - 1922 Jan 1 6:00u
-7:00 - 1927 Jun 10
-6:00 - 1930 Nov 15
-7:00 m 1932 Apr
-6:00 - 1988
-6:00 u 1989
-6:00 m
Zone America/Montevideo
-3:44:51 - 1908 Jun 10
-3:44:51 - 1920 May
-4:00 - 1923 Oct
-3:30 U 1942 Dec 14
-3:00 U 1960
-3:00 U 1968
-3:00 U 1970
-3:00 U 1974
-3:00 U 1974 Mar 10
-3:00 U 1974 Dec 22
-3:00 U
Zone America/New_York
-4:56:02 - 1883 Nov 18 17:00u
-5:00 u 1920
-5:00 NY 1942
-5:00 u 1946
-5:00 NY 1967
-5:00 u
Zone America/Nome
12:58:22 - 1867 Oct 19 13:29:35
-11:01:38 - 1900 Aug 20 12:00
-11:00 - 1942
-11:00 u 1946
-11:00 - 1967 Apr
-11:00 - 1969
-11:00 u 1983 Oct 30 2:00
-9:00 u 1983 Nov 30
-9:00 u
Zone America/Noronha
-2:09:40 - 1914
-2:00 B 1990 Sep 17
-2:00 - 1999 Sep 30
-2:00 B 2000 Oct 15
-2:00 - 2001 Sep 13
-2:00 B 2002 Oct
-2:00 -
Zone America/North_Dakota/Beulah
-6:47:07 - 1883 Nov 18 19:00u
-7:00 u 2010 Nov 7 2:00
-6:00 u
Zone America/North_Dakota/Center
-6:45:12 - 1883 Nov 18 19:00u
-7:00 u 1992 Oct 25 2:00
-6:00 u
Zone America/North_Dakota/New_Salem
-6:45:39 - 1883 Nov 18 19:00u
-7:00 u 2003 Oct 26 2:00
-6:00 u
Zone America/Nuuk
-3:26:56 - 1916 Jul 28
-3:00 - 1980 Apr 6 2:00
-3:00 E 2023 Mar 26 1:00u
-2:00 - 2023 Oct 29 1:00u
-2:00 E
Zone America/Ojinaga
-6:57:40 - 1922 Jan 1 7:00u
-7:00 - 1927 Jun 10
-6:00 - 1930 Nov 15
-7:00 m 1932 Apr
-6:00 - 1996
-6:00 m 1998
-6:00 - 1998 Apr Sun>=1 3:00
-7:00 m 2010
-7:00 u 2022 Oct 30 2:00
-6:00 - 2022 Nov 30
-6:00 u
Zone America/Panama
-5:18:08 - 1890
-5:19:36 - 1908 Apr 22
-5:00 -
Zone America/Paramaribo
-3:40:40 - 1911
-3:40:52 - 1935
-3:40:36 - 1945 Oct
-3:30 - 1984 Oct
-3:00 -
Zone America/Phoenix
-7:28:18 - 1883 Nov 18 19:00u
-7:00 u 1944 Jan 1 0:01
-7:00 - 1944 Apr 1 0:01
-7:00 u 1944 Oct 1 0:01
-7:00 - 1967
-7:00 u 1968 Mar 21
-7:00 -
Zone America/Port-au-Prince
-4:49:20 - 1890
-4:49 - 1917 Jan 24 12:00
-5:00 HT
Zone America/Porto_Velho
-4:15:36 - 1914
-4:00 B 1988 Sep 12
-4:00 -
Zone America/Puerto_Rico
-4:24:25 - 1899 Mar 28 12:00
-4:00 - 1942 May 3
-4:00 u 1946
-4:00 -
Zone America/Punta_Arenas
-4:43:40 - 1890
-4:42:45 - 1910 Jan 10
-5:00 - 1916 Jul
-4:42:45 - 1918 Sep 10
-4:00 - 1919 Jul
-4:42:45 - 1927 Sep
-5:00 x 1932 Sep
-4:00 - 1942 Jun
-5:00 - 1942 Aug
-4:00 - 1946 Aug 28 24:00
-5:00 1:00 1947 Mar 31 24:00
-5:00 - 1947 May 21 23:00
-4:00 x 2016 Dec 4
-3:00 -
Zone America/Rankin_Inlet
0:00 - 1957
-6:00 Y 2000 Oct 29 2:00
-5:00 - 2001 Apr 1 3:00
-6:00 C
Zone America/Recife
-2:19:36 - 1914
-3:00 B 1990 Sep 17
-3:00 - 1999 Sep 30
-3:00 B 2000 Oct 15
-3:00 - 2001 Sep 13
-3:00 B 2002 Oct
-3:00 -
Zone America/Regina
-6:58:36 - 1905 Sep
-7:00 r 1960 Apr lastSun 2:00
-6:00 -
Zone America/Resolute
0:00 - 1947 Aug 31
-6:00 Y 2000 Oct 29 2:00
-5:00 - 2001 Apr 1 3:00
-6:00 C 2006 Oct 29 2:00
-5:00 - 2007 Mar 11 3:00
-6:00 C
Zone America/Rio_Branco
-4:31:12 - 1914
-5:00 B 1988 Sep 12
-5:00 - 2008 Jun 24
-4:00 - 2013 Nov 10
-5:00 -
Zone America/Santarem
-3:38:48 - 1914
-4:00 B 1988 Sep 12
-4:00 - 2008 Jun 24
-3:00 -
Zone America/Santiago
-4:42:45 - 1890
-4:42:45 - 1910 Jan 10
-5:00 - 1916 Jul
-4:42:45 - 1918 Sep 10
-4:00 - 1919 Jul
-4:42:45 - 1927 Sep
-5:00 x 1932 Sep
-4:00 - 1942 Jun
-5:00 - 1942 Aug
-4:00 - 1946 Jul 14 24:00
-4:00 1:00 1946 Aug 28 24:00
-5:00 1:00 1947 Mar 31 24:00
-5:00 - 1947 May 21 23:00
-4:00 x
Zone America/Santo_Domingo
-4:39:36 - 1890
-4:40 - 1933 Apr 1 12:00
-5:00 DO 1974 Oct 27
-4:00 - 2000 Oct 29 2:00
-5:00 u 2000 Dec 3 1:00
-4:00 -
Zone America/Sao_Paulo
-3:06:28 - 1914
-3:00 B 1963 Oct 23
-3:00 1:00 1964
-3:00 B
Zone America/Scoresbysund
-1:27:52 - 1916 Jul 28
-2:00 - 1980 Apr 6 2:00
-2:00 c 1981 Mar 29
-1:00 E 2024 Mar 31
-2:00 E
Zone America/Sitka
14:58:47 - 1867 Oct 19 15:30
-9:01:13 - 1900 Aug 20 12:00
-8:00 - 1942
-8:00 u 1946
-8:00 - 1969
-8:00 u 1983 Oct 30 2:00
-9:00 u 1983 Nov 30
-9:00 u
Zone America/St_Johns
-3:30:52 - 1884
-3:30:52 j 1918
-3:30:52 C 1919
-3:30:52 j 1935 Mar 30
-3:30 j 1942 May 11
-3:30 C 1946
-3:30 j 2011 Nov
-3:30 C
Zone America/Swift_Current
-7:11:20 - 1905 Sep
-7:00 C 1946 Apr lastSun 2:00
-7:00 r 1950
-7:00 Sw 1972 Apr lastSun 2:00
-6:00 -
Zone America/Tegucigalpa
-5:48:52 - 1921 Apr
-6:00 HN
Zone America/Thule
-4:35:08 - 1916 Jul 28
-4:00 Th
Zone America/Tijuana
-7:48:04 - 1922 Jan 1 7:00u
-7:00 - 1924
-8:00 - 1927 Jun 10
-7:00 - 1930 Nov 15
-8:00 - 1931 Apr
-8:00 1:00 1931 Sep 30
-8:00 - 1942 Apr 24
-8:00 1:00 1945 Aug 14 23:00u
-8:00 1:00 1945 Nov 15
-8:00 - 1948 Apr 5
-8:00 1:00 1949 Jan 14
-8:00 - 1950 May
-8:00 1:00 1950 Sep 24
-8:00 - 1951 Apr 29 2:00
-8:00 1:00 1951 Sep 30 2:00
-8:00 - 1952 Apr 27 2:00
-8:00 1:00 1952 Sep 28 2:00
-8:00 - 1954
-8:00 CA 1961
-8:00 - 1976
-8:00 u 1996
-8:00 m 2001
-8:00 u 2002 Feb 20
-8:00 m 2010
-8:00 u
Zone America/Toronto
-5:17:32 - 1895
-5:00 C 1919
-5:00 t 1942 Feb 9 2:00s
-5:00 C 1946
-5:00 t 1974
-5:00 C
Zone America/Vancouver
-8:12:28 - 1884
-8:00 Va 1987
-8:00 C
Zone America/Whitehorse
-9:00:12 - 1900 Aug 20
-9:00 Y 1965
-9:00 Yu 1966 Feb 27
-8:00 - 1980
-8:00 C 2020 Nov
-7:00 -
Zone America/Winnipeg
-6:28:36 - 1887 Jul 16
-6:00 W 2006
-6:00 C
Zone America/Yakutat
14:41:05 - 1867 Oct 19 15:12:18
-9:18:55 - 1900 Aug 20 12:00
-9:00 - 1942
-9:00 u 1946
-9:00 - 1969
-9:00 u 1983 Nov 30
-9:00 u
Zone Antarctica/Casey
0:00 - 1969
8:00 - 2009 Oct 18 2:00
11:00 - 2010 Mar 5 2:00
8:00 - 2011 Oct 28 2:00
11:00 - 2012 Feb 21 17:00u
8:00 - 2016 Oct 22
11:00 - 2018 Mar 11 4:00
8:00 - 2018 Oct 7 4:00
11:00 - 2019 Mar 17 3:00
8:00 - 2019 Oct 4 3:00
11:00 - 2020 Mar 8 3:00
8:00 - 2020 Oct 4 0:01
11:00 - 2021 Mar 14
8:00 - 2021 Oct 3 0:01
11:00 - 2022 Mar 13
8:00 - 2022 Oct 2 0:01
11:00 - 2023 Mar 9 3:00
8:00 -
Zone Antarctica/Davis
0:00 - 1957 Jan 13
7:00 - 1964 Nov
0:00 - 1969 Feb
7:00 - 2009 Oct 18 2:00
5:00 - 2010 Mar 10 20:00u
7:00 - 2011 Oct 28 2:00
5:00 - 2012 Feb 21 20:00u
7:00 -
Zone Antarctica/Macquarie
0:00 - 1899 Nov
10:00 - 1916 Oct 1 2:00
10:00 1:00 1917 Feb
10:00 AU 1919 Apr 1 0:00s
0:00 - 1948 Mar 25
10:00 AU 1967
10:00 AT 2010
10:00 1:00 2011
10:00 AT
Zone Antarctica/Mawson
0:00 - 1954 Feb 13
6:00 - 2009 Oct 18 2:00
5:00 -
Zone Antarctica/Palmer
0:00 - 1965
-4:00 A 1969 Oct 5
-3:00 A 1982 May
-4:00 x 2016 Dec 4
-3:00 -
Zone Antarctica/Rothera
0:00 - 1976 Dec
-3:00 -
Zone Antarctica/Troll
0:00 - 2005 Feb 12
0:00 Tr
Zone Antarctica/Vostok
0:00 - 1957 Dec 16
7:00 - 1994 Feb
0:00 - 1994 Nov
7:00 - 2023 Dec 18 2:00
5:00 -
Zone Asia/Almaty
5:07:48 - 1924 May 2
5:00 - 1930 Jun 21
6:00 R 1991 Mar 31 2:00s
5:00 R 1992 Jan 19 2:00s
6:00 R 2004 Oct 31 2:00s
6:00 - 2024 Mar
5:00 -
Zone Asia/Amman
2:23:44 - 1931
2:00 J 2022 Oct 28 0:00s
3:00 -
Zone Asia/Anadyr
11:49:56 - 1924 May 2
12:00 - 1930 Jun 21
13:00 R 1982 Apr 1 0:00s
12:00 R 1991 Mar 31 2:00s
11:00 R 1992 Jan 19 2:00s
12:00 R 2010 Mar 28 2:00s
11:00 R 2011 Mar 27 2:00s
12:00 -
Zone Asia/Aqtau
3:21:04 - 1924 May 2
4:00 - 1930 Jun 21
5:00 - 1981 Oct
6:00 - 1982 Apr
5:00 R 1991 Mar 31 2:00s
4:00 R 1992 Jan 19 2:00s
5:00 R 1994 Sep 25 2:00s
4:00 R 2004 Oct 31 2:00s
5:00 -
Zone Asia/Aqtobe
3:48:40 - 1924 May 2
4:00 - 1930 Jun 21
5:00 - 1981 Apr
5:00 1:00 1981 Oct
6:00 - 1982 Apr
5:00 R 1991 Mar 31 2:00s
4:00 R 1992 Jan 19 2:00s
5:00 R 2004 Oct 31 2:00s
5:00 -
Zone Asia/Ashgabat
3:53:32 - 1924 May 2
4:00 - 1930 Jun 21
5:00 R 1991 Mar 31 2:00
4:00 R 1992 Jan 19 2:00
5:00 -
Zone Asia/Atyrau
3:27:44 - 1924 May 2
3:00 - 1930 Jun 21
5:00 - 1981 Oct
6:00 - 1982 Apr
5:00 R 1991 Mar 31 2:00s
4:00 R 1992 Jan 19 2:00s
5:00 R 1999 Mar 28 2:00s
4:00 R 2004 Oct 31 2:00s
5:00 -
Zone Asia/Baghdad
2:57:40 - 1890
2:57:36 - 1918
3:00 - 1982 May
3:00 IQ
Zone Asia/Baku
3:19:24 - 1924 May 2
3:00 - 1957 Mar
4:00 R 1991 Mar 31 2:00s
3:00 R 1992 Sep lastSun 2:00s
4:00 - 1996
4:00 E 1997
4:00 AZ
Zone Asia/Bangkok
6:42:04 - 1880
6:42:04 - 1920 Apr
7:00 -
Zone Asia/Barnaul
5:35 - 1919 Dec 10
6:00 - 1930 Jun 21
7:00 R 1991 Mar 31 2:00s
6:00 R 1992 Jan 19 2:00s
7:00 R 1995 May 28
6:00 R 2011 Mar 27 2:00s
7:00 - 2014 Oct 26 2:00s
6:00 - 2016 Mar 27 2:00s
7:00 -
Zone Asia/Beirut
2:22 - 1880
2:00 l
Zone Asia/Bishkek
4:58:24 - 1924 May 2
5:00 - 1930 Jun 21
6:00 R 1991 Mar 31 2:00s
5:00 R 1991 Aug 31 2:00
5:00 KG 2005 Aug 12
6:00 -
Zone Asia/Chita
7:33:52 - 1919 Dec 15
8:00 - 1930 Jun 21
9:00 R 1991 Mar 31 2:00s
8:00 R 1992 Jan 19 2:00s
9:00 R 2011 Mar 27 2:00s
10:00 - 2014 Oct 26 2:00s
8:00 - 2016 Mar 27 2:00
9:00 -
Zone Asia/Colombo
5:19:24 - 1880
5:19:32 - 1906
5:30 - 1942 Jan 5
5:30 0:30 1942 Sep
5:30 1:00 1945 Oct 16 2:00
5:30 - 1996 May 25
6:30 - 1996 Oct 26 0:30
6:00 - 2006 Apr 15 0:30
5:30 -
Zone Asia/Damascus
2:25:12 - 1920
2:00 S 2022 Oct 28
3:00 -
Zone Asia/Dhaka
6:01:40 - 1890
5:53:20 - 1941 Oct
6:30 - 1942 May 15
5:30 - 1942 Sep
6:30 - 1951 Sep 30
6:00 - 2009
6:00 BD
Zone Asia/Dili
8:22:20 - 1911 Dec 31 16:00u
8:00 - 1942 Feb 21 23:00
9:00 - 1976 May 3
8:00 - 2000 Sep 17
9:00 -
Zone Asia/Dubai
3:41:12 - 1920
4:00 -
Zone Asia/Dushanbe
4:35:12 - 1924 May 2
5:00 - 1930 Jun 21
6:00 R 1991 Mar 31 2:00s
5:00 1:00 1991 Sep 9 2:00s
5:00 -
Zone Asia/Famagusta
2:15:48 - 1921 Nov 14
2:00 CY 1998 Sep
2:00 E 2016 Sep 8
3:00 - 2017 Oct 29 1:00u
2:00 E
Zone Asia/Gaza
2:17:52 - 1900 Oct
2:00 Z 1948 May 15
2:00 K 1967 Jun 5
2:00 Z 1996
2:00 J 1999
2:00 P 2008 Aug 29
2:00 - 2008 Sep
2:00 P 2010
2:00 - 2010 Mar 27 0:01
2:00 P 2011 Aug
2:00 - 2012
2:00 P
Zone Asia/Hebron
2:20:23 - 1900 Oct
2:00 Z 1948 May 15
2:00 K 1967 Jun 5
2:00 Z 1996
2:00 J 1999
2:00 P
Zone Asia/Ho_Chi_Minh
7:06:30 - 1906 Jul
7:06:30 - 1911 May
7:00 - 1942 Dec 31 23:00
8:00 - 1945 Mar 14 23:00
9:00 - 1945 Sep 1 24:00
7:00 - 1947 Apr
8:00 - 1955 Jul 1 1:00
7:00 - 1959 Dec 31 23:00
8:00 - 1975 Jun 13
7:00 -
Zone Asia/Hong_Kong
7:36:42 - 1904 Oct 29 17:00u
8:00 - 1941 Jun 15 3:00
8:00 1:00 1941 Oct 1 4:00
8:00 0:30 1941 Dec 25
9:00 - 1945 Nov 18 2:00
8:00 HK
Zone Asia/Hovd
6:06:36 - 1905 Aug
6:00 - 1978
7:00 X
Zone Asia/Irkutsk
6:57:05 - 1880
6:57:05 - 1920 Jan 25
7:00 - 1930 Jun 21
8:00 R 1991 Mar 31 2:00s
7:00 R 1992 Jan 19 2:00s
8:00 R 2011 Mar 27 2:00s
9:00 - 2014 Oct 26 2:00s
8:00 -
Zone Asia/Jakarta
7:07:12 - 1867 Aug 10
7:07:12 - 1923 Dec 31 16:40u
7:20 - 1932 Nov
7:30 - 1942 Mar 23
9:00 - 1945 Sep 23
7:30 - 1948 May
8:00 - 1950 May
7:30 - 1964
7:00 -
Zone Asia/Jayapura
9:22:48 - 1932 Nov
9:00 - 1944 Sep
9:30 - 1964
9:00 -
Zone Asia/Jerusalem
2:20:54 - 1880
2:20:40 - 1918
2:00 Z
Zone Asia/Kabul
4:36:48 - 1890
4:00 - 1945
4:30 -
Zone Asia/Kamchatka
10:34:36 - 1922 Nov 10
11:00 - 1930 Jun 21
12:00 R 1991 Mar 31 2:00s
11:00 R 1992 Jan 19 2:00s
12:00 R 2010 Mar 28 2:00s
11:00 R 2011 Mar 27 2:00s
12:00 -
Zone Asia/Karachi
4:28:12 - 1907
5:30 - 1942 Sep
5:30 1:00 1945 Oct 15
5:30 - 1951 Sep 30
5:00 - 1971 Mar 26
5:00 PK
Zone Asia/Kathmandu
5:41:16 - 1920
5:30 - 1986
5:45 -
Zone Asia/Khandyga
9:02:13 - 1919 Dec 15
8:00 - 1930 Jun 21
9:00 R 1991 Mar 31 2:00s
8:00 R 1992 Jan 19 2:00s
9:00 R 2004
10:00 R 2011 Mar 27 2:00s
11:00 - 2011 Sep 13 0:00s
10:00 - 2014 Oct 26 2:00s
9:00 -
Zone Asia/Kolkata
5:53:28 - 1854 Jun 28
5:53:20 - 1870
5:21:10 - 1906
5:30 - 1941 Oct
5:30 1:00 1942 May 15
5:30 - 1942 Sep
5:30 1:00 1945 Oct 15
5:30 -
Zone Asia/Krasnoyarsk
6:11:26 - 1920 Jan 6
6:00 - 1930 Jun 21
7:00 R 1991 Mar 31 2:00s
6:00 R 1992 Jan 19 2:00s
7:00 R 2011 Mar 27 2:00s
8:00 - 2014 Oct 26 2:00s
7:00 -
Zone Asia/Kuching
7:21:20 - 1926 Mar
7:30 - 1933
8:00 NB 1942 Feb 16
9:00 - 1945 Sep 12
8:00 -
Zone Asia/Macau
7:34:10 - 1904 Oct 30
8:00 - 1941 Dec 21 23:00
9:00 _ 1945 Sep 30 24:00
8:00 _
Zone Asia/Magadan
10:03:12 - 1924 May 2
10:00 - 1930 Jun 21
11:00 R 1991 Mar 31 2:00s
10:00 R 1992 Jan 19 2:00s
11:00 R 2011 Mar 27 2:00s
12:00 - 2014 Oct 26 2:00s
10:00 - 2016 Apr 24 2:00s
11:00 -
Zone Asia/Makassar
7:57:36 - 1920
7:57:36 - 1932 Nov
8:00 - 1942 Feb 9
9:00 - 1945 Sep 23
8:00 -
Zone Asia/Manila
-15:56:08 - 1844 Dec 31
8:03:52 - 1899 Sep 6 4:00u
8:00 PH 1942 Feb 11 24:00
9:00 - 1945 Mar 4
8:00 PH
Zone Asia/Nicosia
2:13:28 - 1921 Nov 14
2:00 CY 1998 Sep
2:00 E
Zone Asia/Novokuznetsk
5:48:48 - 1924 May
6:00 - 1930 Jun 21
7:00 R 1991 Mar 31 2:00s
6:00 R 1992 Jan 19 2:00s
7:00 R 2010 Mar 28 2:00s
6:00 R 2011 Mar 27 2:00s
7:00 -
Zone Asia/Novosibirsk
5:31:40 - 1919 Dec 14 6:00
6:00 - 1930 Jun 21
7:00 R 1991 Mar 31 2:00s
6:00 R 1992 Jan 19 2:00s
7:00 R 1993 May 23
6:00 R 2011 Mar 27 2:00s
7:00 - 2014 Oct 26 2:00s
6:00 - 2016 Jul 24 2:00s
7:00 -
Zone Asia/Omsk
4:53:30 - 1919 Nov 14
5:00 - 1930 Jun 21
6:00 R 1991 Mar 31 2:00s
5:00 R 1992 Jan 19 2:00s
6:00 R 2011 Mar 27 2:00s
7:00 - 2014 Oct 26 2:00s
6:00 -
Zone Asia/Oral
3:25:24 - 1924 May 2
3:00 - 1930 Jun 21
5:00 - 1981 Apr
5:00 1:00 1981 Oct
6:00 - 1982 Apr
5:00 R 1989 Mar 26 2:00s
4:00 R 1992 Jan 19 2:00s
5:00 R 1992 Mar 29 2:00s
4:00 R 2004 Oct 31 2:00s
5:00 -
Zone Asia/Pontianak
7:17:20 - 1908 May
7:17:20 - 1932 Nov
7:30 - 1942 Jan 29
9:00 - 1945 Sep 23
7:30 - 1948 May
8:00 - 1950 May
7:30 - 1964
8:00 - 1988
7:00 -
Zone Asia/Pyongyang
8:23 - 1908 Apr
8:30 - 1912
9:00 - 1945 Aug 24
9:00 - 2015 Aug 15
8:30 - 2018 May 4 23:30
9:00 -
Zone Asia/Qatar
3:26:08 - 1920
4:00 - 1972 Jun
3:00 -
Zone Asia/Qostanay
4:14:28 - 1924 May 2
4:00 - 1930 Jun 21
5:00 - 1981 Apr
5:00 1:00 1981 Oct
6:00 - 1982 Apr
5:00 R 1991 Mar 31 2:00s
4:00 R 1992 Jan 19 2:00s
5:00 R 2004 Oct 31 2:00s
6:00 - 2024 Mar
5:00 -
Zone Asia/Qyzylorda
4:21:52 - 1924 May 2
4:00 - 1930 Jun 21
5:00 - 1981 Apr
5:00 1:00 1981 Oct
6:00 - 1982 Apr
5:00 R 1991 Mar 31 2:00s
4:00 R 1991 Sep 29 2:00s
5:00 R 1992 Jan 19 2:00s
6:00 R 1992 Mar 29 2:00s
5:00 R 2004 Oct 31 2:00s
6:00 - 2018 Dec 21
5:00 -
Zone Asia/Riyadh
3:06:52 - 1947 Mar 14
3:00 -
Zone Asia/Sakhalin
9:30:48 - 1905 Aug 23
9:00 - 1945 Aug 25
11:00 R 1991 Mar 31 2:00s
10:00 R 1992 Jan 19 2:00s
11:00 R 1997 Mar lastSun 2:00s
10:00 R 2011 Mar 27 2:00s
11:00 - 2014 Oct 26 2:00s
10:00 - 2016 Mar 27 2:00s
11:00 -
Zone Asia/Samarkand
4:27:53 - 1924 May 2
4:00 - 1930 Jun 21
5:00 - 1981 Apr
5:00 1:00 1981 Oct
6:00 - 1982 Apr
5:00 R 1992
5:00 -
Zone Asia/Seoul
8:27:52 - 1908 Apr
8:30 - 1912
9:00 - 1945 Sep 8
9:00 KR 1954 Mar 21
8:30 KR 1961 Aug 10
9:00 KR
Zone Asia/Shanghai
8:05:43 - 1901
8:00 Sh 1949 May 28
8:00 CN
Zone Asia/Singapore
6:55:25 - 1901
6:55:25 - 1905 Jun
7:00 - 1933
7:00 0:20 1936
7:20 - 1941 Sep
7:30 - 1942 Feb 16
9:00 - 1945 Sep 12
7:30 - 1981 Dec 31 16:00u
8:00 -
Zone Asia/Srednekolymsk
10:14:52 - 1924 May 2
10:00 - 1930 Jun 21
11:00 R 1991 Mar 31 2:00s
10:00 R 1992 Jan 19 2:00s
11:00 R 2011 Mar 27 2:00s
12:00 - 2014 Oct 26 2:00s
11:00 -
Zone Asia/Taipei
8:06 - 1896
8:00 - 1937 Oct
9:00 - 1945 Sep 21 1:00
8:00 f
Zone Asia/Tashkent
4:37:11 - 1924 May 2
5:00 - 1930 Jun 21
6:00 R 1991 Mar 31 2:00
5:00 R 1992
5:00 -
Zone Asia/Tbilisi
2:59:11 - 1880
2:59:11 - 1924 May 2
3:00 - 1957 Mar
4:00 R 1991 Mar 31 2:00s
3:00 R 1992
3:00 e 1994 Sep lastSun
4:00 e 1996 Oct lastSun
4:00 1:00 1997 Mar lastSun
4:00 e 2004 Jun 27
3:00 R 2005 Mar lastSun 2:00
4:00 -
Zone Asia/Tehran
3:25:44 - 1916
3:25:44 - 1935 Jun 13
3:30 i 1977 Oct 20 24:00
4:00 i 1978 Nov 10 24:00
3:30 i
Zone Asia/Thimphu
5:58:36 - 1947 Aug 15
5:30 - 1987 Oct
6:00 -
Zone Asia/Tokyo
9:18:59 - 1887 Dec 31 15:00u
9:00 JP
Zone Asia/Tomsk
5:39:51 - 1919 Dec 22
6:00 - 1930 Jun 21
7:00 R 1991 Mar 31 2:00s
6:00 R 1992 Jan 19 2:00s
7:00 R 2002 May 1 3:00
6:00 R 2011 Mar 27 2:00s
7:00 - 2014 Oct 26 2:00s
6:00 - 2016 May 29 2:00s
7:00 -
Zone Asia/Ulaanbaatar
7:07:32 - 1905 Aug
7:00 - 1978
8:00 X
Zone Asia/Urumqi
5:50:20 - 1928
6:00 -
Zone Asia/Ust-Nera
9:32:54 - 1919 Dec 15
8:00 - 1930 Jun 21
9:00 R 1981 Apr
11:00 R 1991 Mar 31 2:00s
10:00 R 1992 Jan 19 2:00s
11:00 R 2011 Mar 27 2:00s
12:00 - 2011 Sep 13 0:00s
11:00 - 2014 Oct 26 2:00s
10:00 -
Zone Asia/Vladivostok
8:47:31 - 1922 Nov 15
9:00 - 1930 Jun 21
10:00 R 1991 Mar 31 2:00s
9:00 R 1992 Jan 19 2:00s
10:00 R 2011 Mar 27 2:00s
11:00 - 2014 Oct 26 2:00s
10:00 -
Zone Asia/Yakutsk
8:38:58 - 1919 Dec 15
8:00 - 1930 Jun 21
9:00 R 1991 Mar 31 2:00s
8:00 R 1992 Jan 19 2:00s
9:00 R 2011 Mar 27 2:00s
10:00 - 2014 Oct 26 2:00s
9:00 -
Zone Asia/Yangon
6:24:47 - 1880
6:24:47 - 1920
6:30 - 1942 May
9:00 - 1945 May 3
6:30 -
Zone Asia/Yekaterinburg
4:02:33 - 1916 Jul 3
3:45:05 - 1919 Jul 15 4:00
4:00 - 1930 Jun 21
5:00 R 1991 Mar 31 2:00s
4:00 R 1992 Jan 19 2:00s
5:00 R 2011 Mar 27 2:00s
6:00 - 2014 Oct 26 2:00s
5:00 -
Zone Asia/Yerevan
2:58 - 1924 May 2
3:00 - 1957 Mar
4:00 R 1991 Mar 31 2:00s
3:00 R 1995 Sep 24 2:00s
4:00 - 1997
4:00 R 2011
4:00 AM
Zone Atlantic/Azores
-1:42:40 - 1884
-1:54:32 - 1912 Jan 1 2:00u
-2:00 p 1942 Apr 25 22:00s
-2:00 p 1942 Aug 15 22:00s
-2:00 p 1943 Apr 17 22:00s
-2:00 p 1943 Aug 28 22:00s
-2:00 p 1944 Apr 22 22:00s
-2:00 p 1944 Aug 26 22:00s
-2:00 p 1945 Apr 21 22:00s
-2:00 p 1945 Aug 25 22:00s
-2:00 p 1966 Oct 2 2:00s
-1:00 - 1982 Mar 28 0:00s
-1:00 p 1986
-1:00 E 1992 Dec 27 1:00s
0:00 E 1993 Jun 17 1:00u
-1:00 E
Zone Atlantic/Bermuda
-4:19:18 - 1890
-4:19:18 Be 1930 Jan 1 2:00
-4:00 Be 1974 Apr 28 2:00
-4:00 C 1976
-4:00 u
Zone Atlantic/Canary
-1:01:36 - 1922 Mar
-1:00 - 1946 Sep 30 1:00
0:00 - 1980 Apr 6 0:00s
0:00 1:00 1980 Sep 28 1:00u
0:00 E
Zone Atlantic/Cape_Verde
-1:34:04 - 1912 Jan 1 2:00u
-2:00 - 1942 Sep
-2:00 1:00 1945 Oct 15
-2:00 - 1975 Nov 25 2:00
-1:00 -
Zone Atlantic/Faroe
-0:27:04 - 1908 Jan 11
0:00 - 1981
0:00 E
Zone Atlantic/Madeira
-1:07:36 - 1884
-1:07:36 - 1912 Jan 1 1:00u
-1:00 p 1942 Apr 25 22:00s
-1:00 p 1942 Aug 15 22:00s
-1:00 p 1943 Apr 17 22:00s
-1:00 p 1943 Aug 28 22:00s
-1:00 p 1944 Apr 22 22:00s
-1:00 p 1944 Aug 26 22:00s
-1:00 p 1945 Apr 21 22:00s
-1:00 p 1945 Aug 25 22:00s
-1:00 p 1966 Oct 2 2:00s
0:00 - 1982 Apr 4
0:00 p 1986 Jul 31
0:00 E
Zone Atlantic/South_Georgia
-2:26:08 - 1890
-2:00 -
Zone Atlantic/Stanley
-3:51:24 - 1890
-3:51:24 - 1912 Mar 12
-4:00 FK 1983 May
-3:00 FK 1985 Sep 15
-4:00 FK 2010 Sep 5 2:00
-3:00 -
Zone Australia/Adelaide
9:14:20 - 1895 Feb
9:00 - 1899 May
9:30 AU 1971
9:30 AS
Zone Australia/Brisbane
10:12:08 - 1895
10:00 AU 1971
10:00 AQ
Zone Australia/Broken_Hill
9:25:48 - 1895 Feb
10:00 - 1896 Aug 23
9:00 - 1899 May
9:30 AU 1971
9:30 AN 2000
9:30 AS
Zone Australia/Darwin
8:43:20 - 1895 Feb
9:00 - 1899 May
9:30 AU
Zone Australia/Eucla
8:35:28 - 1895 Dec
8:45 AU 1943 Jul
8:45 AW
Zone Australia/Hobart
9:49:16 - 1895 Sep
10:00 AT 1919 Oct 24
10:00 AU 1967
10:00 AT
Zone Australia/Lindeman
9:55:56 - 1895
10:00 AU 1971
10:00 AQ 1992 Jul
10:00 Ho
Zone Australia/Lord_Howe
10:36:20 - 1895 Feb
10:00 - 1981 Mar
10:30 LH 1985 Jul
10:30 LH
Zone Australia/Melbourne
9:39:52 - 1895 Feb
10:00 AU 1971
10:00 AV
Zone Australia/Perth
7:43:24 - 1895 Dec
8:00 AU 1943 Jul
8:00 AW
Zone Australia/Sydney
10:04:52 - 1895 Feb
10:00 AU 1971
10:00 AN
Zone Etc/GMT
0:00 -
Zone Etc/GMT+1
-1:00 -
Zone Etc/GMT+10
-10:00 -
Zone Etc/GMT+11
-11:00 -
Zone Etc/GMT+12
-12:00 -
Zone Etc/GMT+2
-2:00 -
Zone Etc/GMT+3
-3:00 -
Zone Etc/GMT+4
-4:00 -
Zone Etc/GMT+5
-5:00 -
Zone Etc/GMT+6
-6:00 -
Zone Etc/GMT+7
-7:00 -
Zone Etc/GMT+8
-8:00 -
Zone Etc/GMT+9
-9:00 -
Zone Etc/GMT-1
1:00 -
Zone Etc/GMT-10
10:00 -
Zone Etc/GMT-11
11:00 -
Zone Etc/GMT-12
12:00 -
Zone Etc/GMT-13
13:00 -
Zone Etc/GMT-14
14:00 -
Zone Etc/GMT-2
2:00 -
Zone Etc/GMT-3
3:00 -
Zone Etc/GMT-4
4:00 -
Zone Etc/GMT-5
5:00 -
Zone Etc/GMT-6
6:00 -
Zone Etc/GMT-7
7:00 -
Zone Etc/GMT-8
8:00 -
Zone Etc/GMT-9
9:00 -
Zone Etc/UTC
0:00 -
Zone Europe/Andorra
0:06:04 - 1901
0:00 - 1946 Sep 30
1:00 - 1985 Mar 31 2:00
1:00 E
Zone Europe/Astrakhan
3:12:12 - 1924 May
3:00 - 1930 Jun 21
4:00 R 1989 Mar 26 2:00s
3:00 R 1991 Mar 31 2:00s
4:00 - 1992 Mar 29 2:00s
3:00 R 2011 Mar 27 2:00s
4:00 - 2014 Oct 26 2:00s
3:00 - 2016 Mar 27 2:00s
4:00 -
Zone Europe/Athens
1:34:52 - 1895 Sep 14
1:34:52 - 1916 Jul 28 0:01
2:00 g 1941 Apr 30
1:00 g 1944 Apr 4
2:00 g 1981
2:00 E
Zone Europe/Belgrade
1:22 - 1884
1:00 - 1941 Apr 18 23:00
1:00 c 1945
1:00 - 1945 May 8 2:00s
1:00 1:00 1945 Sep 16 2:00s
1:00 - 1982 Nov 27
1:00 E
Zone Europe/Berlin
0:53:28 - 1893 Apr
1:00 c 1945 May 24 2:00
1:00 So 1946
1:00 DE 1980
1:00 E
Zone Europe/Brussels
0:17:30 - 1880
0:17:30 - 1892 May 1 0:17:30
0:00 - 1914 Nov 8
1:00 - 1916 May
1:00 c 1918 Nov 11 11:00u
0:00 b 1940 May 20 2:00s
1:00 c 1944 Sep 3
1:00 b 1977
1:00 E
Zone Europe/Bucharest
1:44:24 - 1891 Oct
1:44:24 - 1931 Jul 24
2:00 z 1981 Mar 29 2:00s
2:00 c 1991
2:00 z 1994
2:00 e 1997
2:00 E
Zone Europe/Budapest
1:16:20 - 1890 Nov
1:00 c 1918
1:00 h 1941 Apr 7 23:00
1:00 c 1945
1:00 h 1984
1:00 E
Zone Europe/Chisinau
1:55:20 - 1880
1:55 - 1918 Feb 15
1:44:24 - 1931 Jul 24
2:00 z 1940 Aug 15
2:00 1:00 1941 Jul 17
1:00 c 1944 Aug 24
3:00 R 1990 May 6 2:00
2:00 R 1992
2:00 e 1997
2:00 MD
Zone Europe/Dublin
-0:25:21 - 1880 Aug 2
-0:25:21 - 1916 May 21 2:00s
-0:25:21 1:00 1916 Oct 1 2:00s
0:00 G 1921 Dec 6
0:00 G 1940 Feb 25 2:00s
0:00 1:00 1946 Oct 6 2:00s
0:00 - 1947 Mar 16 2:00s
0:00 1:00 1947 Nov 2 2:00s
0:00 - 1948 Apr 18 2:00s
0:00 G 1968 Oct 27
1:00 - 1971 Oct 31 2:00u
0:00 G 1996
0:00 E
Zone Europe/Gibraltar
-0:21:24 - 1880 Aug 2
0:00 G 1957 Apr 14 2:00
1:00 - 1982
1:00 E
Zone Europe/Helsinki
1:39:49 - 1878 May 31
1:39:49 - 1921 May
2:00 FI 1983
2:00 E
Zone Europe/Istanbul
1:55:52 - 1880
1:56:56 - 1910 Oct
2:00 T 1978 Jun 29
3:00 T 1984 Nov 1 2:00
2:00 T 2007
2:00 E 2011 Mar 27 1:00u
2:00 - 2011 Mar 28 1:00u
2:00 E 2014 Mar 30 1:00u
2:00 - 2014 Mar 31 1:00u
2:00 E 2015 Oct 25 1:00u
2:00 1:00 2015 Nov 8 1:00u
2:00 E 2016 Sep 7
3:00 -
Zone Europe/Kaliningrad
1:22 - 1893 Apr
1:00 c 1945 Apr 10
2:00 O 1946 Apr 7
3:00 R 1989 Mar 26 2:00s
2:00 R 2011 Mar 27 2:00s
3:00 - 2014 Oct 26 2:00s
2:00 -
Zone Europe/Kirov
3:18:48 - 1919 Jul 1 0:00u
3:00 - 1930 Jun 21
4:00 R 1989 Mar 26 2:00s
3:00 R 1991 Mar 31 2:00s
4:00 - 1992 Mar 29 2:00s
3:00 R 2011 Mar 27 2:00s
4:00 - 2014 Oct 26 2:00s
3:00 -
Zone Europe/Kyiv
2:02:04 - 1880
2:02:04 - 1924 May 2
2:00 - 1930 Jun 21
3:00 - 1941 Sep 20
1:00 c 1943 Nov 6
3:00 R 1990 Jul 1 2:00
2:00 1:00 1991 Sep 29 3:00
2:00 c 1996 May 13
2:00 E
Zone Europe/Lisbon
-0:36:45 - 1884
-0:36:45 - 1912 Jan 1 0:00u
0:00 p 1966 Oct 2 2:00s
1:00 - 1976 Sep 26 1:00
0:00 p 1986
0:00 E 1992 Sep 27 1:00u
1:00 E 1996 Mar 31 1:00u
0:00 E
Zone Europe/London
-0:01:15 - 1847 Dec
0:00 G 1968 Oct 27
1:00 - 1971 Oct 31 2:00u
0:00 G 1996
0:00 E
Zone Europe/Madrid
-0:14:44 - 1901 Jan 1 0:00u
0:00 s 1940 Mar 16 23:00
1:00 s 1979
1:00 E
Zone Europe/Malta
0:58:04 - 1893 Nov 2
1:00 I 1973 Mar 31
1:00 MT 1981
1:00 E
Zone Europe/Minsk
1:50:16 - 1880
1:50 - 1924 May 2
2:00 - 1930 Jun 21
3:00 - 1941 Jun 28
1:00 c 1944 Jul 3
3:00 R 1990
3:00 - 1991 Mar 31 2:00s
2:00 R 2011 Mar 27 2:00s
3:00 -
Zone Europe/Moscow
2:30:17 - 1880
2:30:17 - 1916 Jul 3
2:31:19 R 1919 Jul 1 0:00u
3:00 R 1921 Oct
3:00 R 1922 Oct
2:00 - 1930 Jun 21
3:00 R 1991 Mar 31 2:00s
2:00 R 1992 Jan 19 2:00s
3:00 R 2011 Mar 27 2:00s
4:00 - 2014 Oct 26 2:00s
3:00 -
Zone Europe/Paris
0:09:21 - 1891 Mar 16
0:09:21 - 1911 Mar 11
0:00 F 1940 Jun 14 23:00
1:00 c 1944 Aug 25
0:00 F 1945 Sep 16 3:00
1:00 F 1977
1:00 E
Zone Europe/Prague
0:57:44 - 1850
0:57:44 - 1891 Oct
1:00 c 1945 May 9
1:00 CZ 1946 Dec 1 3:00
0:00 - 1947 Feb 23 2:00
1:00 CZ 1979
1:00 E
Zone Europe/Riga
1:36:34 - 1880
1:36:34 - 1918 Apr 15 2:00
1:36:34 1:00 1918 Sep 16 3:00
1:36:34 - 1919 Apr 1 2:00
1:36:34 1:00 1919 May 22 3:00
1:36:34 - 1926 May 11
2:00 - 1940 Aug 5
3:00 - 1941 Jul
1:00 c 1944 Oct 13
3:00 R 1989 Mar lastSun 2:00s
2:00 1:00 1989 Sep lastSun 2:00s
2:00 LV 1997 Jan 21
2:00 E 2000 Feb 29
2:00 - 2001 Jan 2
2:00 E
Zone Europe/Rome
0:49:56 - 1866 Dec 12
0:49:56 - 1893 Oct 31 23:00u
1:00 I 1943 Sep 10
1:00 c 1944 Jun 4
1:00 I 1980
1:00 E
Zone Europe/Samara
3:20:20 - 1919 Jul 1 0:00u
3:00 - 1930 Jun 21
4:00 - 1935 Jan 27
4:00 R 1989 Mar 26 2:00s
3:00 R 1991 Mar 31 2:00s
2:00 R 1991 Sep 29 2:00s
3:00 - 1991 Oct 20 3:00
4:00 R 2010 Mar 28 2:00s
3:00 R 2011 Mar 27 2:00s
4:00 -
Zone Europe/Saratov
3:04:18 - 1919 Jul 1 0:00u
3:00 - 1930 Jun 21
4:00 R 1988 Mar 27 2:00s
3:00 R 1991 Mar 31 2:00s
4:00 - 1992 Mar 29 2:00s
3:00 R 2011 Mar 27 2:00s
4:00 - 2014 Oct 26 2:00s
3:00 - 2016 Dec 4 2:00s
4:00 -
Zone Europe/Simferopol
2:16:24 - 1880
2:16 - 1924 May 2
2:00 - 1930 Jun 21
3:00 - 1941 Nov
1:00 c 1944 Apr 13
3:00 R 1990
3:00 - 1990 Jul 1 2:00
2:00 - 1992 Mar 20
2:00 c 1994 May
3:00 c 1996 Mar 31 0:00s
3:00 1:00 1996 Oct 27 3:00s
3:00 - 1997 Mar lastSun 1:00u
2:00 E 2014 Mar 30 2:00
4:00 - 2014 Oct 26 2:00s
3:00 -
Zone Europe/Sofia
1:33:16 - 1880
1:56:56 - 1894 Nov 30
2:00 - 1942 Nov 2 3:00
1:00 c 1945
1:00 - 1945 Apr 2 3:00
2:00 - 1979 Mar 31 23:00
2:00 BG 1982 Sep 26 3:00
2:00 c 1991
2:00 e 1997
2:00 E
Zone Europe/Tallinn
1:39 - 1880
1:39 - 1918 Feb
1:00 c 1919 Jul
1:39 - 1921 May
2:00 - 1940 Aug 6
3:00 - 1941 Sep 15
1:00 c 1944 Sep 22
3:00 R 1989 Mar 26 2:00s
2:00 1:00 1989 Sep 24 2:00s
2:00 c 1998 Sep 22
2:00 E 1999 Oct 31 4:00
2:00 - 2002 Feb 21
2:00 E
Zone Europe/Tirane
1:19:20 - 1914
1:00 - 1940 Jun 16
1:00 q 1984 Jul
1:00 E
Zone Europe/Ulyanovsk
3:13:36 - 1919 Jul 1 0:00u
3:00 - 1930 Jun 21
4:00 R 1989 Mar 26 2:00s
3:00 R 1991 Mar 31 2:00s
2:00 R 1992 Jan 19 2:00s
3:00 R 2011 Mar 27 2:00s
4:00 - 2014 Oct 26 2:00s
3:00 - 2016 Mar 27 2:00s
4:00 -
Zone Europe/Vienna
1:05:21 - 1893 Apr
1:00 c 1920
1:00 a 1940 Apr 1 2:00s
1:00 c 1945 Apr 2 2:00s
1:00 1:00 1945 Apr 12 2:00s
1:00 - 1946
1:00 a 1981
1:00 E
Zone Europe/Vilnius
1:41:16 - 1880
1:24 - 1917
1:35:36 - 1919 Oct 10
1:00 - 1920 Jul 12
2:00 - 1920 Oct 9
1:00 - 1940 Aug 3
3:00 - 1941 Jun 24
1:00 c 1944 Aug
3:00 R 1989 Mar 26 2:00s
2:00 R 1991 Sep 29 2:00s
2:00 c 1998
2:00 - 1998 Mar 29 1:00u
1:00 E 1999 Oct 31 1:00u
2:00 - 2003
2:00 E
Zone Europe/Volgograd
2:57:40 - 1920 Jan 3
3:00 - 1930 Jun 21
4:00 - 1961 Nov 11
4:00 R 1988 Mar 27 2:00s
3:00 R 1991 Mar 31 2:00s
4:00 - 1992 Mar 29 2:00s
3:00 R 2011 Mar 27 2:00s
4:00 - 2014 Oct 26 2:00s
3:00 - 2018 Oct 28 2:00s
4:00 - 2020 Dec 27 2:00s
3:00 -
Zone Europe/Warsaw
1:24 - 1880
1:24 - 1915 Aug 5
1:00 c 1918 Sep 16 3:00
2:00 O 1922 Jun
1:00 O 1940 Jun 23 2:00
1:00 c 1944 Oct
1:00 O 1977
1:00 W- 1988
1:00 E
Zone Europe/Zurich
0:34:08 - 1853 Jul 16
0:29:46 - 1894 Jun
1:00 CH 1981
1:00 E
Zone Indian/Chagos
4:49:40 - 1907
5:00 - 1996
6:00 -
Zone Indian/Maldives
4:54 - 1880
4:54 - 1960
5:00 -
Zone Indian/Mauritius
3:50 - 1907
4:00 MU
Zone Pacific/Apia
12:33:04 - 1892 Jul 5
-11:26:56 - 1911
-11:30 - 1950
-11:00 WS 2011 Dec 29 24:00
13:00 WS
Zone Pacific/Auckland
11:39:04 - 1868 Nov 2
11:30 NZ 1946
12:00 NZ
Zone Pacific/Bougainville
10:22:16 - 1880
9:48:32 - 1895
10:00 - 1942 Jul
9:00 - 1945 Aug 21
10:00 - 2014 Dec 28 2:00
11:00 -
Zone Pacific/Chatham
12:13:48 - 1868 Nov 2
12:15 - 1946
12:45 k
Zone Pacific/Easter
-7:17:28 - 1890
-7:17:28 - 1932 Sep
-7:00 x 1982 Mar 14 3:00u
-6:00 x
Zone Pacific/Efate
11:13:16 - 1912 Jan 13
11:00 VU
Zone Pacific/Fakaofo
-11:24:56 - 1901
-11:00 - 2011 Dec 30
13:00 -
Zone Pacific/Fiji
11:55:44 - 1915 Oct 26
12:00 FJ
Zone Pacific/Galapagos
-5:58:24 - 1931
-5:00 - 1986
-6:00 EC
Zone Pacific/Gambier
-8:59:48 - 1912 Oct
-9:00 -
Zone Pacific/Guadalcanal
10:39:48 - 1912 Oct
11:00 -
Zone Pacific/Guam
-14:21 - 1844 Dec 31
9:39 - 1901
10:00 - 1941 Dec 10
9:00 - 1944 Jul 31
10:00 Gu 2000 Dec 23
10:00 -
Zone Pacific/Honolulu
-10:31:26 - 1896 Jan 13 12:00
-10:30 - 1933 Apr 30 2:00
-10:30 1:00 1933 May 21 12:00
-10:30 u 1947 Jun 8 2:00
-10:00 -
Zone Pacific/Kanton
0:00 - 1937 Aug 31
-12:00 - 1979 Oct
-11:00 - 1994 Dec 31
13:00 -
Zone Pacific/Kiritimati
-10:29:20 - 1901
-10:40 - 1979 Oct
-10:00 - 1994 Dec 31
14:00 -
Zone Pacific/Kosrae
-13:08:04 - 1844 Dec 31
10:51:56 - 1901
11:00 - 1914 Oct
9:00 - 1919 Feb
11:00 - 1937
10:00 - 1941 Apr
9:00 - 1945 Aug
11:00 - 1969 Oct
12:00 - 1999
11:00 -
Zone Pacific/Kwajalein
11:09:20 - 1901
11:00 - 1937
10:00 - 1941 Apr
9:00 - 1944 Feb 6
11:00 - 1969 Oct
-12:00 - 1993 Aug 20 24:00
12:00 -
Zone Pacific/Marquesas
-9:18 - 1912 Oct
-9:30 -
Zone Pacific/Nauru
11:07:40 - 1921 Jan 15
11:30 - 1942 Aug 29
9:00 - 1945 Sep 8
11:30 - 1979 Feb 10 2:00
12:00 -
Zone Pacific/Niue
-11:19:40 - 1952 Oct 16
-11:20 - 1964 Jul
-11:00 -
Zone Pacific/Norfolk
11:11:52 - 1901
11:12 - 1951
11:30 - 1974 Oct 27 2:00s
11:30 1:00 1975 Mar 2 2:00s
11:30 - 2015 Oct 4 2:00s
11:00 - 2019 Jul
11:00 AN
Zone Pacific/Noumea
11:05:48 - 1912 Jan 13
11:00 NC
Zone Pacific/Pago_Pago
12:37:12 - 1892 Jul 5
-11:22:48 - 1911
-11:00 -
Zone Pacific/Palau
-15:02:04 - 1844 Dec 31
8:57:56 - 1901
9:00 -
Zone Pacific/Pitcairn
-8:40:20 - 1901
-8:30 - 1998 Apr 27
-8:00 -
Zone Pacific/Port_Moresby
9:48:40 - 1880
9:48:32 - 1895
10:00 -
Zone Pacific/Rarotonga
13:20:56 - 1899 Dec 26
-10:39:04 - 1952 Oct 16
-10:30 - 1978 Nov 12
-10:00 CK
Zone Pacific/Tahiti
-9:58:16 - 1912 Oct
-10:00 -
Zone Pacific/Tarawa
11:32:04 - 1901
12:00 -
Zone Pacific/Tongatapu
12:19:12 - 1945 Sep 10
12:20 - 1961
13:00 - 1999
13:00 TO
"

end CronHeatMap.Zone.Data
